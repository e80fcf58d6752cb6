import App20.Intents.PriceSchedule

/-!
# Inverting a price schedule

`invertPriceSchedule` halves the domain until the least amount that pays a target is left.

* `invertPriceSchedule_least`: on every accepted schedule it ends with this amount, and with none
  exactly for a target above the value at the last point.
-/

namespace App20.Intents

open App20.Lib

variable {schedule : List PriceSchedulePoint} {amount targetB b : Int}

/-! ## Evaluation over the domain -/

theorem evaluatePriceSchedule_point (h : Accepted schedule) {p : PriceSchedulePoint}
    (hp : p ∈ schedule) : evaluatePriceSchedule schedule p.a = .ok p.b := by
  obtain ⟨⟨ha, -⟩, ⟨hb, -⟩⟩ := h.values p hp
  refine evaluatePriceSchedule_ok_iff.mpr ⟨h, p.a.toNat, p.b.toNat, by omega, by omega, ?_⟩
  exact Piecewise.eval_point h.rising (List.mem_map_of_mem hp)

theorem evaluatePriceSchedule_isOk_iff {first : PriceSchedulePoint} {rest : List PriceSchedulePoint}
    (h : Accepted (first :: rest)) (amount : Int) :
    (∃ b, evaluatePriceSchedule (first :: rest) amount = .ok b) ↔
      first.a ≤ amount ∧ amount ≤ ((first :: rest).getLast (List.cons_ne_nil _ _)).a := by
  obtain ⟨⟨hfirst, -⟩, -⟩ := h.values first List.mem_cons_self
  obtain ⟨⟨hlast, -⟩, -⟩ := h.values _ (List.getLast_mem (List.cons_ne_nil first rest))
  have hdomain : (∃ y, Piecewise.eval (curve (first :: rest)) amount.toNat = some y) ↔
      first.a.toNat ≤ amount.toNat ∧ amount.toNat ≤
        ((first :: rest).getLast (List.cons_ne_nil _ _)).a.toNat := by
    have hne : curve (first :: rest) ≠ [] := List.cons_ne_nil _ _
    have hlast : ((curve (first :: rest)).getLast hne).a =
        ((first :: rest).getLast (List.cons_ne_nil _ _)).a.toNat :=
      congrArg Piecewise.Point.a (List.getLast_map hne)
    rw [← hlast, ← Option.isSome_iff_exists]
    exact Piecewise.eval_isSome_iff h.rising amount.toNat
  constructor
  · rintro ⟨b, hb⟩
    obtain ⟨-, x, y, rfl, -, heval⟩ := evaluatePriceSchedule_ok_iff.mp hb
    have hinside := hdomain.mp ⟨y, heval⟩
    omega
  · rintro ⟨hlow, hhigh⟩
    obtain ⟨y, hy⟩ := hdomain.mpr (by omega)
    exact ⟨y, evaluatePriceSchedule_ok_iff.mpr ⟨h, amount.toNat, y, by omega, rfl, hy⟩⟩

theorem evaluatePriceSchedule_mono {amount' b' : Int}
    (hb : evaluatePriceSchedule schedule amount = .ok b)
    (hb' : evaluatePriceSchedule schedule amount' = .ok b') (hle : amount ≤ amount') : b ≤ b' := by
  obtain ⟨h, x, y, rfl, rfl, heval⟩ := evaluatePriceSchedule_ok_iff.mp hb
  obtain ⟨-, x', y', rfl, rfl, heval'⟩ := evaluatePriceSchedule_ok_iff.mp hb'
  have hrising := h.rising
  cases hps : curve schedule with
  | nil =>
    rw [hps] at heval
    cases heval
  | cons p ps =>
    rw [hps] at hrising heval heval'
    exact Int.ofNat_le.mpr (Piecewise.eval_mono hrising heval heval' (Int.ofNat_le.mp hle))

/-! ## The search -/

/-- The loop of `invertPriceSchedule`. -/
def searchAmount (schedule : List PriceSchedulePoint) (targetB low high : Int) :
    Except ScheduleError Int :=
  if low < high then do
    let middle := low + (high - low) / 2
    let b ← evaluatePriceSchedule schedule middle
    if b ≥ targetB then searchAmount schedule targetB low middle
    else searchAmount schedule targetB (middle + 1) high
  else .ok low
termination_by (high - low).toNat

def invertPriceSchedule (schedule : List PriceSchedulePoint) (targetB : Int) :
    Except ScheduleError (Option Int) := do
  assertPriceSchedule schedule
  match schedule with
  | [] => .error .pointCount
  | first :: rest =>
      let last := (first :: rest).getLast (List.cons_ne_nil _ _)
      if targetB ≤ first.b then .ok (some first.a)
      else if targetB > last.b then .ok none
      else some <$> searchAmount (first :: rest) targetB first.a last.a

def paying (schedule : List PriceSchedulePoint) (targetB : Int) : Set Int :=
  {amount | ∃ b, evaluatePriceSchedule schedule amount = .ok b ∧ targetB ≤ b}

/-- No amount below `low` pays the target, `high` does, and all between them are in the domain. -/
theorem searchAmount_least {low high : Int}
    (hlow : ∀ amount ∈ paying schedule targetB, low ≤ amount)
    (hhigh : high ∈ paying schedule targetB) (hle : low ≤ high)
    (hdomain : ∀ amount, low ≤ amount → amount ≤ high →
      ∃ b, evaluatePriceSchedule schedule amount = .ok b) :
    ∃ amount, searchAmount schedule targetB low high = .ok amount ∧
      IsLeast (paying schedule targetB) amount := by
  induction hn : (high - low).toNat using Nat.strong_induction_on generalizing low high with
  | _ n ih =>
    rw [searchAmount]
    by_cases hlt : low < high
    · obtain ⟨b, hb⟩ := hdomain (low + (high - low) / 2) (by omega) (by omega)
      rw [if_pos hlt]
      simp only [hb, ok_bind]
      by_cases hpays : b ≥ targetB
      · rw [if_pos hpays]
        exact ih _ (by omega) hlow ⟨b, hb, hpays⟩ (by omega)
          (fun amount h1 h2 => hdomain amount h1 (by omega)) rfl
      · rw [if_neg hpays]
        refine ih _ (by omega) (fun amount hamount => ?_) hhigh (by omega)
          (fun amount h1 h2 => hdomain amount (by omega) h2) rfl
        -- what pays the target is above the middle, which does not
        obtain ⟨b', hb', hpays'⟩ := hamount
        by_contra hbelow
        have := evaluatePriceSchedule_mono hb' hb (by omega)
        omega
    · rw [if_neg hlt]
      obtain rfl : low = high := by omega
      exact ⟨low, rfl, hhigh, hlow⟩

/-- On an accepted schedule the least amount that pays the target is found, and there is none
exactly for a target above the value at the last point. -/
theorem invertPriceSchedule_least (schedule : List PriceSchedulePoint) (targetB : Int)
    (h : assertPriceSchedule schedule = .ok ()) :
    ∃ r, invertPriceSchedule schedule targetB = .ok r ∧
      (∀ amount ∈ r, IsLeast (paying schedule targetB) amount) ∧
      ∀ last ∈ schedule.getLast?, (r = none ↔
        ∃ b, evaluatePriceSchedule schedule last.a = .ok b ∧ b < targetB) := by
  have haccepted := (assertPriceSchedule_ok_iff schedule).mp h
  rw [invertPriceSchedule.eq_def, h, ok_bind]
  cases schedule with
  | nil => exact absurd haccepted.len_pos (by simp)
  | cons first rest =>
    have hfirst := evaluatePriceSchedule_point haccepted List.mem_cons_self
    have hlast := evaluatePriceSchedule_point haccepted
      (List.getLast_mem (List.cons_ne_nil first rest))
    have hdomain := evaluatePriceSchedule_isOk_iff haccepted
    have hends := (hdomain first.a).mp ⟨_, hfirst⟩
    have hbounds := evaluatePriceSchedule_mono hfirst hlast hends.2
    have hfrom : ∀ amount ∈ paying (first :: rest) targetB, first.a ≤ amount :=
      fun amount ⟨b, hb, _⟩ => ((hdomain amount).mp ⟨b, hb⟩).1
    simp only [List.getLast?_eq_getLast_of_ne_nil (List.cons_ne_nil first rest),
      Option.mem_def, Option.some.injEq, forall_eq', hlast, Except.ok.injEq, exists_eq_left']
    by_cases hlowest : targetB ≤ first.b
    · rw [if_pos hlowest]
      refine ⟨_, rfl, ?_, iff_of_false (by simp) (by omega)⟩
      rintro _ ⟨⟩
      exact ⟨⟨_, hfirst, hlowest⟩, hfrom⟩
    · rw [if_neg hlowest]
      by_cases habove : targetB > ((first :: rest).getLast (List.cons_ne_nil _ _)).b
      · rw [if_pos habove]
        exact ⟨none, rfl, by simp, iff_of_true rfl (by omega)⟩
      · rw [if_neg habove]
        obtain ⟨amount, hsearch, hleast⟩ := searchAmount_least hfrom ⟨_, hlast, by omega⟩ hends.2
          (fun amount h1 h2 => (hdomain amount).mpr ⟨h1, h2⟩)
        rw [hsearch]
        refine ⟨_, rfl, ?_, iff_of_false (by simp) (by omega)⟩
        rintro _ ⟨⟩
        exact hleast

theorem invertPriceSchedule_least_two :
    ∃ r, invertPriceSchedule [⟨3, 10⟩, ⟨6, 11⟩] 11 = .ok (some r) ∧
      IsLeast (paying [⟨3, 10⟩, ⟨6, 11⟩] 11) r := by
  obtain ⟨r, hr, hleast, hnone⟩ := invertPriceSchedule_least [⟨3, 10⟩, ⟨6, 11⟩] 11 rfl
  cases r with
  | none =>
    obtain ⟨b, ⟨⟩, hlt⟩ := (hnone ⟨6, 11⟩ rfl).mp rfl
    exact absurd hlt (lt_irrefl _)
  | some amount => exact ⟨amount, hr, hleast amount rfl⟩

end App20.Intents
