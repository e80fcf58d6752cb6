import App20.Domain.Felt

/-!
# Integers that are read from texts

`BigInt(text)` reads decimal digits with a sign, and digits of other bases behind their prefix.

* `parseBigInt_hex`: the hexadecimal text of a number is read as that number.
-/

namespace App20.Domain

def digitsOf (base : Nat) (s : Text) : Option Int :=
  if s ≠ [] ∧ s.all (fun c => isHexDigit c && decide (digitValue c < base)) then
    some (ofDigits base s)
  else none

/-- `BigInt(text)`; `none` is its error. -/
def parseBigInt (s : Text) : Option Int :=
  match trim s with
  | [] => some 0
  | '0' :: 'x' :: ds | '0' :: 'X' :: ds => digitsOf 16 ds
  | '0' :: 'o' :: ds | '0' :: 'O' :: ds => digitsOf 8 ds
  | '0' :: 'b' :: ds | '0' :: 'B' :: ds => digitsOf 2 ds
  | '-' :: ds => (digitsOf 10 ds).map fun n => -n
  | '+' :: ds => digitsOf 10 ds
  | ds => digitsOf 10 ds

theorem parseBigInt_hex (n : Nat) : parseBigInt (hex n) = some (n : Int) := by
  have hne : Nat.toDigits 16 n ≠ [] := Nat.toDigits_ne_nil
  have hall : (Nat.toDigits 16 n).all
      (fun c => isHexDigit c && decide (digitValue c < 16)) = true := by
    rw [List.all_eq_true]
    intro c hc
    obtain ⟨d, hd, rfl⟩ := mem_toDigits c hc
    obtain ⟨hdigit, hvalue⟩ := digitChar_spec hd
    simp [hdigit, hvalue, hd]
  unfold parseBigInt
  rw [trim_hex]
  unfold hex
  simp only
  unfold digitsOf
  rw [if_pos ⟨hne, hall⟩, ofDigits_toDigits]

end App20.Domain
