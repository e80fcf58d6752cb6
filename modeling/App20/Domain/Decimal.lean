import App20.Domain.Felt
import App20.Lib.JsonText

/-!
# Canonical decimals

The decimal texts without a sign and without leading zeros in which amounts are sent.

* `isDecimal_iff`: the texts that match the pattern are those of the natural numbers.
-/

namespace App20.Domain

open App20.Lib

/-- `/^(?:0|[1-9][0-9]*)$/` -/
def isDecimal (s : Text) : Bool :=
  match s with
  | [] => false
  | ['0'] => true
  | c :: cs => decide (49 ≤ c.toNat ∧ c.toNat ≤ 57) && cs.all isDecDigit

/-- `BigInt` of a canonical decimal. -/
def decimalValue (s : Text) : Int := (ofDigits 10 s : Nat)

theorem digitChar_decimal {d : Nat} (h : d < 10) :
    digitValue d.digitChar = d ∧ isDecDigit d.digitChar = true ∧
      (0 < d → 49 ≤ d.digitChar.toNat ∧ d.digitChar.toNat ≤ 57) := by
  have key : ∀ d : Fin 10, digitValue d.val.digitChar = d.val ∧ isDecDigit d.val.digitChar = true ∧
        (0 < d.val → 49 ≤ d.val.digitChar.toNat ∧ d.val.digitChar.toNat ≤ 57) := by decide
  exact key ⟨d, h⟩

theorem digitChar_digitValue {c : Char} (h : isDecDigit c = true) :
    digitValue c < 10 ∧ (digitValue c).digitChar = c := by
  have hc := of_decide_eq_true h
  have key : ∀ n : Fin 58, 48 ≤ n.val → digitValue (Char.ofNat n.val) < 10 ∧
      (digitValue (Char.ofNat n.val)).digitChar = Char.ofNat n.val := by decide
  have hn := key ⟨c.toNat, by omega⟩ hc.1
  rwa [Char.ofNat_toNat] at hn

theorem ofDigits_toDigits_ten (n : Nat) : ofDigits 10 (Nat.toDigits 10 n) = n := by
  induction n using Nat.strongRecOn with
  | ind n ih =>
    rw [Nat.toDigits_eq_if (by omega)]
    split
    · rename_i hlt
      have hvalue := (digitChar_decimal hlt).1
      simp [ofDigits, hvalue]
    · have hrest := ih (n / 10) (by omega)
      have hvalue := (digitChar_decimal (Nat.mod_lt n (by omega : 0 < 10))).1
      rw [ofDigits_append_singleton, hrest, hvalue]
      omega

def LeadingDigit (s : Text) : Prop :=
  ∃ c cs, s = c :: cs ∧ 49 ≤ c.toNat ∧ c.toNat ≤ 57 ∧ ∀ d ∈ cs, isDecDigit d = true

theorem leadingDigit_toDigits {n : Nat} (h : 0 < n) : LeadingDigit (Nat.toDigits 10 n) := by
  induction n using Nat.strongRecOn with
  | ind n ih =>
    rw [Nat.toDigits_eq_if (by omega)]
    split
    · rename_i hlt
      obtain ⟨-, -, hfirst⟩ := digitChar_decimal hlt
      exact ⟨_, [], rfl, (hfirst h).1, (hfirst h).2, by simp⟩
    · obtain ⟨c, cs, hcs, hlow, hhigh, hall⟩ := ih (n / 10) (by omega) (by omega)
      obtain ⟨-, hdigit, -⟩ := digitChar_decimal (Nat.mod_lt n (by omega : 0 < 10))
      refine ⟨c, cs ++ [(n % 10).digitChar], by rw [hcs]; rfl, hlow, hhigh, fun d hd => ?_⟩
      rcases List.mem_append.mp hd with hd | hd
      · exact hall d hd
      · rw [List.mem_singleton.mp hd]
        exact hdigit

/-- Digits without a leading zero are the digits of their number. -/
theorem toDigits_ofDigits (cs : Text) : ∀ c, 49 ≤ c.toNat → c.toNat ≤ 57 →
    (∀ d ∈ cs, isDecDigit d = true) →
      0 < ofDigits 10 (c :: cs) ∧ Nat.toDigits 10 (ofDigits 10 (c :: cs)) = c :: cs := by
  induction cs using List.reverseRecOn with
  | nil =>
    intro c hlow hhigh _
    obtain ⟨hlt, hchar⟩ := digitChar_digitValue (c := c) (decide_eq_true (by omega))
    have hvalue : ofDigits 10 [c] = digitValue c := by simp [ofDigits]
    have hpos : 0 < digitValue c := by
      unfold digitValue
      simp only [if_pos hhigh]
      omega
    rw [hvalue]
    refine ⟨hpos, ?_⟩
    rw [Nat.toDigits_eq_if (by omega), if_pos hlt, hchar]
  | append_singleton cs d ih =>
    intro c hlow hhigh hall
    obtain ⟨hpos, hdigits⟩ := ih c hlow hhigh fun e he => hall e (List.mem_append_left _ he)
    obtain ⟨hlt, hchar⟩ := digitChar_digitValue (hall d (by simp))
    have happend : ofDigits 10 (c :: (cs ++ [d])) = ofDigits 10 (c :: cs) * 10 + digitValue d := by
      rw [← List.cons_append, ofDigits_append_singleton]
    rw [happend]
    refine ⟨by omega, ?_⟩
    have hdiv : (ofDigits 10 (c :: cs) * 10 + digitValue d) / 10 = ofDigits 10 (c :: cs) := by
      omega
    have hmod : (ofDigits 10 (c :: cs) * 10 + digitValue d) % 10 = digitValue d := by omega
    rw [Nat.toDigits_eq_if (by omega), if_neg (by omega), hdiv, hmod, hdigits, hchar]
    rfl

theorem isDecimal_leading {s : Text} (hne : s ≠ ['0']) : isDecimal s = true ↔ LeadingDigit s := by
  unfold isDecimal LeadingDigit
  split
  · simp
  · exact absurd rfl hne
  · simp only [Bool.and_eq_true, decide_eq_true_eq, List.all_eq_true, List.cons.injEq]
    constructor
    · rintro ⟨⟨hlow, hhigh⟩, hall⟩
      exact ⟨_, _, ⟨rfl, rfl⟩, hlow, hhigh, hall⟩
    · rintro ⟨_, _, ⟨rfl, rfl⟩, hlow, hhigh, hall⟩
      exact ⟨⟨hlow, hhigh⟩, hall⟩

theorem isDecimal_iff {s : Text} :
    isDecimal s = true ↔ 0 ≤ decimalValue s ∧ decimal (decimalValue s) = s := by
  have hnonneg : 0 ≤ decimalValue s := Int.natCast_nonneg _
  have hdecimal : decimal (decimalValue s) = Nat.toDigits 10 (ofDigits 10 s) := by
    unfold decimal
    rw [if_neg (Int.not_lt.mpr hnonneg)]
    rfl
  rw [hdecimal, and_iff_right hnonneg]
  by_cases hzero : s = ['0']
  · rw [hzero]
    decide
  · rw [isDecimal_leading hzero]
    constructor
    · rintro ⟨c, cs, rfl, hlow, hhigh, hall⟩
      exact (toDigits_ofDigits cs c hlow hhigh hall).2
    · intro hs
      have hpos : 0 < ofDigits 10 s := by
        apply Nat.pos_of_ne_zero
        intro hnone
        rw [hnone] at hs
        exact hzero (hs.symm.trans (by decide))
      rw [← hs]
      exact leadingDigit_toDigits hpos

theorem decimalValue_decimal {n : Int} (h : 0 ≤ n) : decimalValue (decimal n) = n := by
  unfold decimalValue decimal
  rw [if_neg (Int.not_lt.mpr h), ofDigits_toDigits_ten]
  omega

theorem isDecimal_decimal {n : Int} (h : 0 ≤ n) : isDecimal (decimal n) = true := by
  rw [isDecimal_iff, decimalValue_decimal h]
  exact ⟨h, rfl⟩

end App20.Domain
