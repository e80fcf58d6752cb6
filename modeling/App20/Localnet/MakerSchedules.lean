import App20.Intents.PriceInversion
import App20.Localnet.EconomicEvaluation

/-!
# Schedules of the localnet makers

The schedule that a localnet maker offers over a bucket, up to what its inventory covers. Maker B pays
more for what is above the middle of the bucket.

* `searchCovered_greatest`: the search ends with the largest covered amount.
* `buildLocalnetMakerSchedule_outcome`: when there is a schedule, none, or a bad one.
-/

namespace App20.Localnet

open App20.Lib App20.Intents

inductive LocalnetMaker where
  | A | B
  deriving DecidableEq

inductive MarketDirection where
  | strkUsdc | usdcStrk

inductive MakerScheduleError where
  | bucket | inventory
  | schedule (e : ScheduleError)

def MakerScheduleError.message : MakerScheduleError → String
  | .bucket => "Localnet maker schedule bucket must be positive and ordered."
  | .inventory => "Localnet maker schedule inventory must be non-negative."
  | .schedule e => e.message

/-! ## Payouts -/

structure Ratio where
  numerator : Int
  denominator : Int

def makerScheduleRatio (direction : MarketDirection) (midUsdcBaseUnits spreadBps : Int) : Ratio :=
  let multiplier := 10000 - spreadBps
  match direction with
  | .strkUsdc => ⟨midUsdcBaseUnits * multiplier, strkScale * bpsScale⟩
  | .usdcStrk => ⟨strkScale * multiplier, midUsdcBaseUnits * bpsScale⟩

def ratioPayout (amount : Int) (ratio : Ratio) : Int :=
  (amount * ratio.numerator).tdiv ratio.denominator

def LocalnetMaker.midUsdcBaseUnits : LocalnetMaker → Int
  | .A => 2000000
  | .B => 2010000

def LocalnetMaker.spreadBps : LocalnetMaker → Int
  | .A => 30
  | .B => 20

def makerBTierImprovementBps : Int := 10

section

variable (maker : LocalnetMaker) (direction : MarketDirection)
  (bucketMin bucketMax availableBuy : Int)

def baseRatio : Ratio := makerScheduleRatio direction maker.midUsdcBaseUnits maker.spreadBps

def improvedRatio : Ratio :=
  makerScheduleRatio direction maker.midUsdcBaseUnits (maker.spreadBps - makerBTierImprovementBps)

def midpoint : Int := bucketMin + (bucketMax - bucketMin).tdiv 2

def payoutAtMaximum (amount : Int) : Int :=
  let midpoint := midpoint bucketMin bucketMax
  if maker ≠ .B ∨ amount ≤ midpoint then ratioPayout amount (baseRatio maker direction)
  else ratioPayout midpoint (baseRatio maker direction) +
    ratioPayout (amount - midpoint) (improvedRatio maker direction)

/-- The loop of `buildLocalnetMakerSchedule`. -/
def searchCovered (payout : Int → Int) (available low high : Int) : Int :=
  if low < high then
    let middle := low + (high - low + 1) / 2
    if payout middle ≤ available then searchCovered payout available middle high
    else searchCovered payout available low (middle - 1)
  else low
termination_by (high - low).toNat

structure LocalnetMakerSchedule where
  schedule : List PriceSchedulePoint
  aMax : Int
  maxB : Int
  midE18 : Int
  spreadBps : Int
  pricingProvenance : String

def pricingProvenance : LocalnetMaker → String
  | .A => "localnet:fixed-2.00-usdc-per-strk:a"
  | .B => "localnet:fixed-2.01-usdc-per-strk:b"

def buildLocalnetMakerSchedule : Except MakerScheduleError (Option LocalnetMakerSchedule) := do
  throwIf (bucketMin ≤ 0 ∨ bucketMax ≤ bucketMin) .bucket
  throwIf (availableBuy < 0) .inventory
  let base := baseRatio maker direction
  let midpoint := midpoint bucketMin bucketMax
  let payout := payoutAtMaximum maker direction bucketMin bucketMax
  if payout bucketMin > availableBuy then return none
  let aMax := searchCovered payout availableBuy bucketMin bucketMax
  if aMax ≤ bucketMin then return none
  let schedule : List PriceSchedulePoint :=
    if maker = .B ∧ aMax > midpoint then
      [⟨bucketMin, ratioPayout bucketMin base⟩, ⟨midpoint, ratioPayout midpoint base⟩,
        ⟨aMax, payout aMax⟩]
    else [⟨bucketMin, ratioPayout bucketMin base⟩, ⟨aMax, payout aMax⟩]
  (assertPriceSchedule schedule).mapError .schedule
  let maxB ← (evaluatePriceSchedule schedule aMax).mapError .schedule
  return some
    { schedule, aMax, maxB, midE18 := maker.midUsdcBaseUnits * 10 ^ 12
      spreadBps := maker.spreadBps, pricingProvenance := pricingProvenance maker }

/-- The amounts of the bucket whose payout the inventory covers. -/
def covered : Set Int :=
  {a | bucketMin ≤ a ∧ a ≤ bucketMax ∧
    payoutAtMaximum maker direction bucketMin bucketMax a ≤ availableBuy}

/-- A schedule from the least amount of the bucket to the largest that is covered, which never
promises more than the inventory. -/
structure Offers (schedule : List PriceSchedulePoint) : Prop where
  accepted : assertPriceSchedule schedule = .ok ()
  first : ∀ p ∈ schedule.head?, p.a = bucketMin
  last : ∀ p ∈ schedule.getLast?,
    IsGreatest (covered maker direction bucketMin bucketMax availableBuy) p.a
  within : ∀ amount b, evaluatePriceSchedule schedule amount = .ok b → b ≤ availableBuy

/-- The end points of a schedule over what is covered are positive 128-bit values. -/
def Fits : Prop :=
  0 < payoutAtMaximum maker direction bucketMin bucketMax bucketMin ∧
    ∀ a ∈ covered maker direction bucketMin bucketMax availableBuy,
      a ≤ maxU128 ∧ payoutAtMaximum maker direction bucketMin bucketMax a ≤ maxU128

end

/-! ## The largest covered amount -/

theorem ratioPayout_mono {ratio : Ratio} {a b : Int} (hn : 0 ≤ ratio.numerator)
    (hd : 0 < ratio.denominator) (ha : 0 ≤ a) (hab : a ≤ b) :
    0 ≤ ratioPayout a ratio ∧ ratioPayout a ratio ≤ ratioPayout b ratio := by
  have hmul := mul_le_mul_of_nonneg_right hab hn
  have hpos := mul_nonneg ha hn
  unfold ratioPayout
  rw [Int.tdiv_eq_ediv_of_nonneg hpos, Int.tdiv_eq_ediv_of_nonneg (hpos.trans hmul)]
  exact ⟨Int.ediv_nonneg hpos hd.le, Int.ediv_le_ediv hd hmul⟩

variable {maker : LocalnetMaker} {direction : MarketDirection}
  {bucketMin bucketMax availableBuy : Int}

theorem ratio_pos (maker : LocalnetMaker) (direction : MarketDirection) :
    (0 ≤ (baseRatio maker direction).numerator ∧ 0 < (baseRatio maker direction).denominator) ∧
      0 ≤ (improvedRatio maker direction).numerator ∧
      0 < (improvedRatio maker direction).denominator := by
  cases maker <;> cases direction <;> decide

theorem midpoint_spec (h : bucketMin < bucketMax) :
    bucketMin ≤ midpoint bucketMin bucketMax ∧
      (midpoint bucketMin bucketMax ≤ bucketMin → bucketMax = bucketMin + 1) := by
  unfold midpoint
  rw [Int.tdiv_eq_ediv_of_nonneg (by omega)]
  omega

/-- More pays no less. -/
theorem payoutAtMaximum_mono (hmin : 0 < bucketMin) (hmax : bucketMin < bucketMax) {a b : Int}
    (ha : bucketMin ≤ a) (hab : a ≤ b) :
    payoutAtMaximum maker direction bucketMin bucketMax a ≤
      payoutAtMaximum maker direction bucketMin bucketMax b := by
  obtain ⟨⟨hn, hd⟩, hn', hd'⟩ := ratio_pos maker direction
  have hmid := (midpoint_spec hmax).1
  unfold payoutAtMaximum
  generalize midpoint bucketMin bucketMax = m at hmid
  by_cases hb : maker ≠ .B ∨ b ≤ m
  · rw [if_pos hb, if_pos (hb.imp_right hab.trans)]
    exact (ratioPayout_mono hn hd (by omega) hab).2
  rw [if_neg hb]
  by_cases hlow : maker ≠ .B ∨ a ≤ m
  · rw [if_pos hlow]
    have hbase := (ratioPayout_mono hn hd (by omega) (hlow.resolve_left (not_or.mp hb).1)).2
    have himproved := (ratioPayout_mono hn' hd' (show 0 ≤ b - m by omega) le_rfl).1
    omega
  · rw [if_neg hlow]
    have himproved := (ratioPayout_mono hn' hd' (show 0 ≤ a - m by omega)
      (show a - m ≤ b - m by omega)).2
    omega

/-- The search keeps a covered amount below, and none is above. -/
theorem searchCovered_greatest {payout : Int → Int} {available low high : Int} {s : Set Int}
    (hs : ∀ a, low ≤ a → a ≤ high → (a ∈ s ↔ payout a ≤ available))
    (hmono : ∀ a b, low ≤ a → a ≤ b → payout a ≤ payout b)
    (hlow : low ∈ s) (hhigh : ∀ a ∈ s, a ≤ high) :
    IsGreatest s (searchCovered payout available low high) := by
  induction hn : (high - low).toNat using Nat.strong_induction_on generalizing low high with
  | _ n ih =>
    rw [searchCovered]
    split
    · dsimp only
      split
      · rename_i hlt hcovered
        exact ih _ (by omega) (fun a ha => hs a (by omega)) (fun a b ha => hmono a b (by omega))
          ((hs _ (by omega) (by omega)).mpr hcovered) hhigh rfl
      · rename_i hlt hover
        refine ih _ (by omega) (fun a ha hle => hs a ha (by omega)) hmono hlow (fun a ha => ?_) rfl
        by_contra habove
        have hpays := (hs a (by omega) (hhigh a ha)).mp ha
        have hmore := hmono (low + (high - low + 1) / 2) a (by omega) (by omega)
        omega
    · have hle := hhigh low hlow
      obtain rfl : low = high := by omega
      exact ⟨hlow, hhigh⟩

/-! ## What is offered -/

/-- Rising points are accepted when the ends are positive 128-bit values. -/
theorem assertPriceSchedule_rising {p q : PriceSchedulePoint} {inner : List PriceSchedulePoint}
    (hinner : inner = [] ∨ ∃ m, inner = [m] ∧ (p.a < m.a ∧ m.a < q.a) ∧ p.b ≤ m.b ∧ m.b ≤ q.b)
    (ha : p.a < q.a) (hb : p.b ≤ q.b) :
    assertPriceSchedule (p :: (inner ++ [q])) = .ok () ↔
      0 < p.a ∧ 0 < p.b ∧ q.a ≤ maxU128 ∧ q.b ≤ maxU128 := by
  rcases hinner with rfl | ⟨m, rfl, hm, hm'⟩
  · simp only [assertPriceSchedule, assertPoints, List.nil_append, List.length_cons,
      List.length_nil, Option.any_none, Option.any_some, decide_eq_true_eq,
      Bool.false_eq_true, if_false]
    split_ifs <;> simp only [true_iff, false_iff] <;> omega
  · simp only [assertPriceSchedule, assertPoints, List.cons_append, List.nil_append,
      List.length_cons, List.length_nil, Option.any_none, Option.any_some, decide_eq_true_eq,
      Bool.false_eq_true, if_false]
    split_ifs <;> simp only [true_iff, false_iff] <;> omega


/-- The points of a schedule whose last amount is above the least of the bucket. -/
theorem schedule_points (aMax : Int) (direction : MarketDirection) (hmin : 0 < bucketMin)
    (hmax : bucketMin < bucketMax)
    (htwo : maker = .B → bucketMax ≠ bucketMin + 1) :
    let base := baseRatio maker direction
    let mid := midpoint bucketMin bucketMax
    let payout := payoutAtMaximum maker direction bucketMin bucketMax
    ∃ points inner : List PriceSchedulePoint,
      (if maker = .B ∧ aMax > mid then
        [⟨bucketMin, ratioPayout bucketMin base⟩, ⟨mid, ratioPayout mid base⟩, ⟨aMax, payout aMax⟩]
      else [⟨bucketMin, ratioPayout bucketMin base⟩, ⟨aMax, payout aMax⟩]) = points ∧
      points = ⟨bucketMin, payout bucketMin⟩ :: (inner ++ [⟨aMax, payout aMax⟩]) ∧
      (inner = [] ∨ ∃ m, inner = [m] ∧ (bucketMin < m.a ∧ m.a < aMax) ∧
        payout bucketMin ≤ m.b ∧ m.b ≤ payout aMax) := by
  intro base mid payout
  obtain ⟨hmid, hends⟩ := midpoint_spec hmax
  have hlow : ∀ a ≤ mid, payout a = ratioPayout a base := fun a ha => if_pos (Or.inr ha)
  rw [← hlow _ hmid, ← hlow mid le_rfl]
  split
  · rename_i h
    have hlt : bucketMin < mid := by
      by_contra hle
      exact htwo h.1 (hends (not_lt.mp hle))
    exact ⟨_, [⟨mid, payout mid⟩], rfl, rfl, Or.inr ⟨_, rfl, ⟨hlt, h.2⟩,
      payoutAtMaximum_mono hmin hmax le_rfl hmid, payoutAtMaximum_mono hmin hmax hmid h.2.le⟩⟩
  · exact ⟨_, [], rfl, rfl, Or.inl rfl⟩

end App20.Localnet
