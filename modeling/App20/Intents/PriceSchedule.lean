import App20.Escrow.Schedule

/-!
# Price schedules in TypeScript

`assertPriceSchedule` and `evaluatePriceSchedule` of the private-intents package, over lists
of bigint points, and their agreement with the escrow contract.

* `assertPriceSchedule_ok_iff`: the accepted schedules, of any bigints.
* `evaluatePriceSchedule_ok_iff`: evaluation is the floored interpolation of the curve.
* `evaluatePriceSchedule_agrees`: for every list of u128 points and every bigint amount both
  programs accept the same schedules and the same amounts, with the same amount of token B.
-/

namespace App20.Intents

open App20.Lib App20.Starknet App20.Escrow
open Piecewise (Point Rising Below eval eval_head eval_tail eval_isSome_iff)

structure PriceSchedulePoint where
  a : Int
  b : Int
  deriving DecidableEq

/-- What `badSchedule` and the domain check report. -/
inductive ScheduleError where
  | pointCount
  | pointValues (index : Nat)
  | aNotIncreasing
  | bDecreasing
  | outOfSchedule

def ScheduleError.message : ScheduleError → String
  | .pointCount => "BAD_SCHEDULE: price schedule must contain 1 to 4 points."
  | .pointValues index =>
      "BAD_SCHEDULE: point " ++ toString index ++ " must contain positive u128 a and b values."
  | .aNotIncreasing => "BAD_SCHEDULE: a values must be strictly increasing."
  | .bDecreasing => "BAD_SCHEDULE: b values must be non-decreasing."
  | .outOfSchedule => "OUT_OF_SCHEDULE: amount is outside the price schedule domain."

def maxU128 : Int := 2 ^ 128 - 1

/-- The loop of `assertPriceSchedule` from the point at `index` on. -/
def assertPoints : Nat → Option PriceSchedulePoint → List PriceSchedulePoint →
    Except ScheduleError Unit
  | _, _, [] => .ok ()
  | index, previous, point :: rest =>
      if point.a ≤ 0 ∨ point.b ≤ 0 ∨ point.a > maxU128 ∨ point.b > maxU128 then
        .error (.pointValues index)
      else if previous.any (fun p => point.a ≤ p.a) then .error .aNotIncreasing
      else if previous.any (fun p => point.b < p.b) then .error .bDecreasing
      else assertPoints (index + 1) (some point) rest

def assertPriceSchedule (schedule : List PriceSchedulePoint) : Except ScheduleError Unit :=
  if schedule.length < 1 ∨ schedule.length > 4 then .error .pointCount
  else assertPoints 0 none schedule

/-- The loop of `evaluatePriceSchedule` over the neighbouring points. -/
def evaluateSegments : List PriceSchedulePoint → Int → Except ScheduleError Int
  | left :: right :: rest, amountA =>
      if amountA ≤ right.a then
        .ok (left.b + ((amountA - left.a) * (right.b - left.b)).tdiv (right.a - left.a))
      else evaluateSegments (right :: rest) amountA
  | _, _ => .error .outOfSchedule

def evaluatePriceSchedule (schedule : List PriceSchedulePoint) (amountA : Int) :
    Except ScheduleError Int := do
  assertPriceSchedule schedule
  match schedule with
  | [] => .error .pointCount
  | first :: rest =>
      let last := (first :: rest).getLast (List.cons_ne_nil _ _)
      if amountA < first.a ∨ amountA > last.a then .error .outOfSchedule
      else if (first :: rest).length = 1 then .ok first.b
      else evaluateSegments (first :: rest) amountA

/-! ## The curve of a schedule -/

def curve (schedule : List PriceSchedulePoint) : List Point :=
  schedule.map fun p => ⟨p.a.toNat, p.b.toNat⟩

def PositiveU128 (n : Int) : Prop := 0 < n ∧ n ≤ maxU128

/-- The schedules that `assertPriceSchedule` accepts. -/
structure Accepted (schedule : List PriceSchedulePoint) : Prop where
  len_pos : 1 ≤ schedule.length
  len_le : schedule.length ≤ 4
  values : ∀ p ∈ schedule, PositiveU128 p.a ∧ PositiveU128 p.b
  rising : Rising (curve schedule)

/-- `previous` may stand directly before the points of `schedule`. -/
def Follows (previous : Option PriceSchedulePoint) (schedule : List PriceSchedulePoint) : Prop :=
  ∀ p ∈ previous, ∀ q ∈ schedule.head?, p.a < q.a ∧ p.b ≤ q.b

theorem rising_cons_iff {q : PriceSchedulePoint} {rest : List PriceSchedulePoint}
    (h : ∀ p ∈ q :: rest, PositiveU128 p.a ∧ PositiveU128 p.b) :
    Rising (curve (q :: rest)) ↔ Follows (some q) rest ∧ Rising (curve rest) := by
  cases rest with
  | nil => simp [Rising, curve, Follows]
  | cons r rest =>
    obtain ⟨⟨hqa, -⟩, ⟨hqb, -⟩⟩ := h q List.mem_cons_self
    obtain ⟨⟨hra, -⟩, ⟨hrb, -⟩⟩ := h r (by simp)
    simp only [Rising, curve, List.map_cons, List.isChain_cons_cons, Below,
      Follows, Option.mem_def, Option.some.injEq, forall_eq', List.head?_cons]
    constructor
    · rintro ⟨⟨h1, h2⟩, h3⟩
      exact ⟨⟨by omega, by omega⟩, h3⟩
    · rintro ⟨⟨h1, h2⟩, h3⟩
      exact ⟨⟨by omega, by omega⟩, h3⟩

section

variable (schedule : List PriceSchedulePoint)

include schedule

theorem assertPoints_ok_iff :
    ∀ (index : Nat) (previous : Option PriceSchedulePoint),
      assertPoints index previous schedule = .ok () ↔
        (∀ p ∈ schedule, PositiveU128 p.a ∧ PositiveU128 p.b) ∧
          Rising (curve schedule) ∧ Follows previous schedule := by
  induction schedule with
  | nil => simp [assertPoints, Rising, curve, Follows]
  | cons q rest ih =>
    intro index previous
    have hprev : Follows previous (q :: rest) ↔
        ¬ previous.any (fun p => q.a ≤ p.a) ∧ ¬ previous.any (fun p => q.b < p.b) := by
      cases previous <;> simp [Follows]
    rw [assertPoints]
    split
    · rename_i hvalues
      simp only [reduceCtorEq, false_iff, not_and]
      intro h
      obtain ⟨⟨h1, h2⟩, ⟨h3, h4⟩⟩ := h q List.mem_cons_self
      omega
    rename_i hvalues
    split
    · simp [*]
    split
    · simp [*]
    rename_i ha hb
    rw [ih, List.forall_mem_cons]
    constructor
    · rintro ⟨hrest, hrising, hfollows⟩
      have hq : PositiveU128 q.a ∧ PositiveU128 q.b := by
        unfold PositiveU128
        omega
      exact ⟨⟨hq, hrest⟩, (rising_cons_iff (List.forall_mem_cons.mpr ⟨hq, hrest⟩)).mpr
        ⟨hfollows, hrising⟩, hprev.mpr ⟨ha, hb⟩⟩
    · rintro ⟨⟨hq, hrest⟩, hrising, -⟩
      obtain ⟨hfollows, hrising⟩ :=
        (rising_cons_iff (List.forall_mem_cons.mpr ⟨hq, hrest⟩)).mp hrising
      exact ⟨hrest, hrising, hfollows⟩

theorem assertPriceSchedule_ok_iff : assertPriceSchedule schedule = .ok () ↔ Accepted schedule := by
  unfold assertPriceSchedule
  split
  · simp only [reduceCtorEq, false_iff]
    rintro ⟨h1, h4, -, -⟩
    omega
  · rw [assertPoints_ok_iff]
    constructor
    · rintro ⟨hvalues, hrising, -⟩
      exact ⟨by omega, by omega, hvalues, hrising⟩
    · rintro ⟨-, -, hvalues, hrising⟩
      exact ⟨hvalues, hrising, by simp [Follows]⟩

theorem assertPoints_ne_outOfSchedule :
    ∀ index previous, assertPoints index previous schedule ≠ .error .outOfSchedule := by
  induction schedule with
  | nil => simp [assertPoints]
  | cons q rest ih =>
    intro index previous
    rw [assertPoints]
    split_ifs
    · simp
    · simp
    · simp
    · exact ih _ _

theorem assertPriceSchedule_ne_outOfSchedule :
    assertPriceSchedule schedule ≠ .error .outOfSchedule := by
  unfold assertPriceSchedule
  split
  · simp
  · exact assertPoints_ne_outOfSchedule _ _ _

end

/-! ## Evaluation -/

def ofCurve (ps : List Point) : List PriceSchedulePoint := ps.map fun p => ⟨p.a, p.b⟩

variable {schedule : List PriceSchedulePoint} {pts : List (U128 × U128)} {s : Schedule}

theorem ofCurve_curve (h : ∀ p ∈ schedule, PositiveU128 p.a ∧ PositiveU128 p.b) :
    ofCurve (curve schedule) = schedule := by
  unfold ofCurve curve
  rw [List.map_map]
  conv_rhs => rw [← List.map_id schedule]
  apply List.map_congr_left
  intro p hp
  obtain ⟨⟨ha, -⟩, ⟨hb, -⟩⟩ := h p hp
  cases p
  simp only [Function.comp_apply, id_eq, PriceSchedulePoint.mk.injEq]
  dsimp only at ha hb
  omega

/-- The bigint expression of one segment. -/
theorem segment_cast {p q : Point} (h : Below p q) {x : Nat} (hx : p.a ≤ x) :
    (p.b : Int) + (((x : Int) - p.a) * ((q.b : Int) - p.b)).tdiv ((q.a : Int) - p.a) =
      (Piecewise.segment p q x : Nat) := by
  unfold Piecewise.segment
  rw [Nat.cast_add, Int.natCast_ediv, Nat.cast_mul, Nat.cast_sub hx, Nat.cast_sub h.2,
    Nat.cast_sub h.1.le, Int.tdiv_eq_ediv_of_nonneg]
  apply mul_nonneg
  · have : (p.a : Int) ≤ x := by exact_mod_cast hx
    omega
  · have : (p.b : Int) ≤ q.b := by exact_mod_cast h.2
    omega

/-- The result of an evaluation with an optional value. -/
def ofValue : Option Nat → Except ScheduleError Int
  | some y => .ok y
  | none => .error .outOfSchedule

theorem evaluateSegments_ofCurve {p q : Point} {ps : List Point}
    (h : Rising (p :: q :: ps)) {x : Nat} (hx : p.a ≤ x) :
    evaluateSegments (ofCurve (p :: q :: ps)) x = ofValue (eval (p :: q :: ps) x) := by
  induction ps generalizing p q with
  | nil =>
    simp only [ofCurve, List.map_cons, List.map_nil, evaluateSegments, Nat.cast_le]
    by_cases hq : x ≤ q.a
    · rw [if_pos hq, eval_head hx hq, segment_cast h.head hx, ofValue]
    · rw [if_neg hq, eval_tail hx hq, eval, if_neg (by omega), ofValue]
  | cons r ps ih =>
    have hrest := ih h.tail
    simp only [ofCurve, List.map_cons] at hrest ⊢
    rw [evaluateSegments]
    simp only [Nat.cast_le]
    by_cases hq : x ≤ q.a
    · rw [if_pos hq, eval_head hx hq, segment_cast h.head hx, ofValue]
    · rw [if_neg hq, eval_tail hx hq]
      exact hrest (by omega)

theorem ofCurve_getLast (p : Point) (ps : List Point) :
    ((ofCurve (p :: ps)).getLast (List.cons_ne_nil _ _)).a =
      (((p :: ps).getLast (List.cons_ne_nil _ _)).a : Int) := by
  induction ps generalizing p with
  | nil => rfl
  | cons q ps ih => exact ih q

/-- Evaluation of an accepted schedule is the floored interpolation of its curve. -/
theorem evaluatePriceSchedule_of_accepted (h : Accepted schedule) (amountA : Int) :
    evaluatePriceSchedule schedule amountA = if amountA < 0 then .error .outOfSchedule
      else ofValue (eval (curve schedule) amountA.toNat) := by
  have hassert := (assertPriceSchedule_ok_iff schedule).mpr h
  have hcast := ofCurve_curve h.values
  have hrising := h.rising
  unfold evaluatePriceSchedule
  rw [hassert]
  generalize curve schedule = ps at hcast hrising
  subst hcast
  cases ps with
  | nil => exact absurd h.len_pos (by simp [ofCurve])
  | cons p ps =>
    have hlast := ofCurve_getLast p ps
    have hdomain := eval_isSome_iff hrising amountA.toNat
    simp only [ofCurve, List.map_cons] at hlast ⊢
    show (if _ ∨ _ then _ else _) = _
    rw [hlast]
    by_cases hout : amountA < p.a ∨ amountA > (((p :: ps).getLast (List.cons_ne_nil _ _)).a : Int)
    · rw [if_pos hout]
      split
      · rfl
      · have hnone : eval (p :: ps) amountA.toNat = none := by
          apply Option.not_isSome_iff_eq_none.mp
          rw [hdomain]
          omega
        rw [hnone, ofValue]
    · obtain ⟨x, rfl⟩ := Int.eq_ofNat_of_zero_le (show 0 ≤ amountA by omega)
      have hnonneg : ¬ (x : Int) < 0 := by omega
      rw [if_neg hout, if_neg hnonneg, Int.toNat_natCast]
      cases ps with
      | nil =>
        obtain rfl : x = p.a := by simp at hout; omega
        rw [Piecewise.eval_first hrising, ofValue]
        rfl
      | cons q ps =>
        have hsegments := evaluateSegments_ofCurve hrising (show p.a ≤ x by omega)
        rw [← hsegments, if_neg (by simp)]
        rfl

/-- What a successful evaluation says, for any bigints. -/
theorem evaluatePriceSchedule_ok_iff {amountA b : Int} :
    evaluatePriceSchedule schedule amountA = .ok b ↔
      Accepted schedule ∧ ∃ x y : Nat, amountA = x ∧ b = y ∧ eval (curve schedule) x = some y := by
  by_cases h : Accepted schedule
  · rw [evaluatePriceSchedule_of_accepted h]
    split
    · simp only [reduceCtorEq, h, true_and, false_iff]
      rintro ⟨x, y, rfl, -⟩
      omega
    · rename_i hpos
      obtain ⟨x, rfl⟩ := Int.eq_ofNat_of_zero_le (show 0 ≤ amountA by omega)
      cases hv : eval (curve schedule) x with
      | none => simp [ofValue, hv]
      | some y => simp [ofValue, hv, h, eq_comm]
  · simp only [h, false_and, iff_false]
    intro hok
    rw [evaluatePriceSchedule.eq_def, bind_ok] at hok
    obtain ⟨u, hu, -⟩ := hok
    exact h ((assertPriceSchedule_ok_iff schedule).mp hu)

/-- The amount is rejected exactly when the schedule is accepted and has no value there. -/
theorem evaluatePriceSchedule_outOfSchedule_iff {amountA : Int} :
    evaluatePriceSchedule schedule amountA = .error .outOfSchedule ↔
      Accepted schedule ∧ (amountA < 0 ∨ eval (curve schedule) amountA.toNat = none) := by
  by_cases h : Accepted schedule
  · rw [evaluatePriceSchedule_of_accepted h]
    split
    · simp [*]
    · cases hv : eval (curve schedule) amountA.toNat <;> simp [ofValue, *]
  · simp only [h, false_and, iff_false]
    intro herr
    rw [evaluatePriceSchedule.eq_def, bind_error] at herr
    rcases herr with herr | ⟨u, hu, -⟩
    · exact assertPriceSchedule_ne_outOfSchedule schedule herr
    · exact h ((assertPriceSchedule_ok_iff schedule).mp hu)

/-! ## Agreement with the escrow -/

def bigints (pts : List (U128 × U128)) : List PriceSchedulePoint :=
  pts.map fun p => ⟨p.1.val, p.2.val⟩

/-- The point at index `i`, padded with zeros as `flattenLockSchedule` does. -/
def pointAt (pts : List (U128 × U128)) (i : Nat) : U128 × U128 := pts[i]?.getD (0, 0)

/-- The schedule fields of the lock calldata; `points_len` must fit in a `u8`. -/
def lockSchedule (pts : List (U128 × U128)) : Option Schedule :=
  if h : pts.length < 2 ^ 8 then
    some ⟨⟨pts.length, h⟩, (pointAt pts 0).1, (pointAt pts 0).2, (pointAt pts 1).1,
      (pointAt pts 1).2, (pointAt pts 2).1, (pointAt pts 2).2, (pointAt pts 3).1, (pointAt pts 3).2⟩
  else none

/-- A bigint amount as the `u128` argument of the contract, when it is one. -/
def u128Amount (n : Int) : Option U128 :=
  if h : 0 ≤ n ∧ n.toNat < 2 ^ 128 then some ⟨n.toNat, h.2⟩ else none

theorem curve_bigints (pts : List (U128 × U128)) :
    curve (bigints pts) = pts.map fun p => ⟨p.1.val, p.2.val⟩ := by
  simp [curve, bigints, Function.comp_def]

/-- Up to four points, the contract's curve is the list's. -/
theorem lockSchedule_points (h : lockSchedule pts = some s) (h4 : pts.length ≤ 4) :
    s.points = curve (bigints pts) := by
  unfold lockSchedule at h
  split at h
  · rw [Option.some.injEq] at h
    subst h
    rw [curve_bigints, Schedule.points]
    match pts, h4 with
    | [], _ => rfl
    | [p], _ => rfl
    | [p, q], _ => rfl
    | [p, q, r], _ => rfl
    | [p, q, r, t], _ => rfl
  · cases h

theorem lockSchedule_len (h : lockSchedule pts = some s) : s.pointsLen.val = pts.length := by
  unfold lockSchedule at h
  split at h
  · rw [Option.some.injEq] at h
    subst h
    rfl
  · cases h

theorem lockSchedule_first {q : U128 × U128} {rest : List (U128 × U128)}
    (h : lockSchedule (q :: rest) = some s) : s.p0A = q.1 ∧ s.p0B = q.2 := by
  unfold lockSchedule at h
  split at h
  · rw [Option.some.injEq] at h
    subst h
    exact ⟨rfl, rfl⟩
  · cases h

theorem lockSchedule_isSome (h : pts.length ≤ 4) : ∃ s, lockSchedule pts = some s := by
  unfold lockSchedule
  rw [dif_pos (by omega)]
  exact ⟨_, rfl⟩

/-- Both programs accept the same lists of points: the contract checks the first point and the
order, TypeScript every point. -/
theorem valid_iff_accepted (hs : lockSchedule pts = some s) : s.Valid ↔ Accepted (bigints pts) := by
  have hlen := lockSchedule_len hs
  have hlength : (bigints pts).length = pts.length := by simp [bigints]
  cases pts with
  | nil =>
    constructor
    · rintro ⟨h1, -, -, -, -⟩
      simp [hlen] at h1
    · rintro ⟨h1, -, -, -⟩
      simp [bigints] at h1
  | cons q rest =>
    obtain ⟨ha, hb⟩ := lockSchedule_first hs
    constructor
    · rintro ⟨h1, h4, hfirstA, hfirstB, hrising⟩
      rw [lockSchedule_points hs (by omega)] at hrising
      refine ⟨by omega, by omega, ?_, hrising⟩
      intro p hp
      obtain ⟨r, hr, rfl⟩ := List.mem_map.mp hp
      have hmem : (⟨r.1.val, r.2.val⟩ : Point) ∈
          (q :: rest).map (fun p => ⟨p.1.val, p.2.val⟩) := List.mem_map.mpr ⟨r, hr, rfl⟩
      rw [curve_bigints] at hrising
      have hle := Rising.first_le hrising _ hmem
      rw [ha] at hfirstA
      rw [hb] at hfirstB
      unfold PositiveU128 maxU128
      dsimp only at hle ⊢
      omega
    · rintro ⟨h1, h4, hvalues, hrising⟩
      rw [← lockSchedule_points hs (by omega)] at hrising
      obtain ⟨⟨hqa, -⟩, ⟨hqb, -⟩⟩ := hvalues ⟨q.1.val, q.2.val⟩ (by simp [bigints])
      dsimp only at hqa hqb
      exact ⟨by omega, by omega, by rw [ha]; omega, by rw [hb]; omega, hrising⟩

theorem accepted_iff_assertSchedule (pts : List (U128 × U128)) :
    Accepted (bigints pts) ↔ ∃ s, lockSchedule pts = some s ∧ assertSchedule s = .ok () := by
  constructor
  · intro h
    have hlen : pts.length ≤ 4 := by simpa [bigints] using h.len_le
    obtain ⟨s, hs⟩ := lockSchedule_isSome hlen
    exact ⟨s, hs, (assertSchedule_ok_iff s).mpr ((valid_iff_accepted hs).mpr h)⟩
  · rintro ⟨s, hs, hok⟩
    exact (valid_iff_accepted hs).mp ((assertSchedule_ok_iff s).mp hok)

theorem u128Amount_eq_some {n : Int} {x : U128} : u128Amount n = some x ↔ n = x.val := by
  unfold u128Amount
  split
  · rw [Option.some.injEq, Fin.ext_iff]
    dsimp only
    omega
  · have := x.isLt
    simp only [reduceCtorEq, false_iff]
    omega

/-- An accepted schedule has no value above the `u128` range. -/
theorem eval_u128 (hs : s.Valid) {x y : Nat} (h : eval s.points x = some y) :
    x < 2 ^ 128 ∧ y < 2 ^ 128 := by
  obtain ⟨ps, hps, hlast⟩ := points_first_last hs
  have hrising := hs.rising
  rw [hps] at hrising h
  have hdomain := (eval_isSome_iff hrising x).mp (Option.isSome_iff_exists.mpr ⟨_, h⟩)
  have hmax := Piecewise.eval_le_last hrising h
  rw [hlast] at hdomain hmax
  exact ⟨lt_of_le_of_lt hdomain.2 s.maxA.isLt, lt_of_le_of_lt hmax (scheduleMaxB s).isLt⟩

/-- For every list of u128 points and every bigint amount, the two programs accept the same
schedules, reject the same amounts, and otherwise give the same amount of token B. -/
theorem evaluatePriceSchedule_agrees (pts : List (U128 × U128)) (amountA : Int) :
    (assertPriceSchedule (bigints pts) = .ok () ↔
      ∃ s, lockSchedule pts = some s ∧ assertSchedule s = .ok ()) ∧
    (evaluatePriceSchedule (bigints pts) amountA = .error .outOfSchedule ↔
      ∃ s, lockSchedule pts = some s ∧ assertSchedule s = .ok () ∧
        ∀ x, u128Amount amountA = some x → evaluateSchedule s x = .error (.error .outOfSchedule)) ∧
    ∀ b, evaluatePriceSchedule (bigints pts) amountA = .ok b ↔
      ∃ s x y, lockSchedule pts = some s ∧ u128Amount amountA = some x ∧
        evaluateSchedule s x = .ok y ∧ b = y.val := by
  refine ⟨?_, ?_, ?_⟩
  · rw [assertPriceSchedule_ok_iff]
    exact accepted_iff_assertSchedule pts
  · rw [evaluatePriceSchedule_outOfSchedule_iff]
    constructor
    · rintro ⟨hacc, hout⟩
      obtain ⟨s, hs, hok⟩ := (accepted_iff_assertSchedule pts).mp hacc
      have hpoints := lockSchedule_points hs (by simpa [bigints] using hacc.len_le)
      refine ⟨s, hs, hok, fun x hx => ?_⟩
      rw [u128Amount_eq_some] at hx
      subst hx
      rw [Int.toNat_natCast, ← hpoints] at hout
      exact evaluateSchedule_error_iff.mpr (Or.inr
        ⟨(assertSchedule_ok_iff s).mp hok, hout.resolve_left (by omega), rfl⟩)
    · rintro ⟨s, hs, hok, hall⟩
      have hacc := (accepted_iff_assertSchedule pts).mpr ⟨s, hs, hok⟩
      have hpoints := lockSchedule_points hs (by simpa [bigints] using hacc.len_le)
      refine ⟨hacc, ?_⟩
      by_cases hneg : amountA < 0
      · exact Or.inl hneg
      · right
        obtain ⟨n, rfl⟩ := Int.eq_ofNat_of_zero_le (show 0 ≤ amountA by omega)
        rw [Int.toNat_natCast, ← hpoints]
        cases hv : eval s.points n with
        | none => rfl
        | some y =>
          have hn := (eval_u128 ((assertSchedule_ok_iff s).mp hok) hv).1
          have herr := hall ⟨n, hn⟩ (u128Amount_eq_some.mpr rfl)
          rcases evaluateSchedule_error_iff.mp herr with ⟨-, h⟩ | ⟨-, h, -⟩
          · cases h
          · rw [hv] at h
            cases h
  · intro b
    rw [evaluatePriceSchedule_ok_iff]
    constructor
    · rintro ⟨hacc, n, m, rfl, rfl, hv⟩
      obtain ⟨s, hs, hok⟩ := (accepted_iff_assertSchedule pts).mp hacc
      rw [← lockSchedule_points hs (by simpa [bigints] using hacc.len_le)] at hv
      have hvalid := (assertSchedule_ok_iff s).mp hok
      obtain ⟨hn, hm⟩ := eval_u128 hvalid hv
      exact ⟨s, ⟨n, hn⟩, ⟨m, hm⟩, hs, u128Amount_eq_some.mpr rfl,
        evaluateSchedule_ok_iff.mpr ⟨hvalid, hv⟩, rfl⟩
    · rintro ⟨s, x, y, hs, hx, hok, rfl⟩
      obtain ⟨hvalid, hv⟩ := evaluateSchedule_ok_iff.mp hok
      have hacc := (valid_iff_accepted hs).mp hvalid
      rw [lockSchedule_points hs (by simpa [bigints] using hacc.len_le)] at hv
      exact ⟨hacc, x, y, u128Amount_eq_some.mp hx, rfl, hv⟩

end App20.Intents
