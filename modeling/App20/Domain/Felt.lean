import Mathlib.Algebra.Order.Ring.Int
import Mathlib.Data.List.DropRight

/-!
# Felts as text

`canonicalizeStarknetFelt` reads a felt from decimal or hexadecimal text, with any letter case,
leading zeros and surrounding white space, and writes it back as lower-case hexadecimal. A text
is a list of characters; every character outside the basic plane fails the pattern, so counting
characters and counting code units come to the same.
-/

namespace App20.Domain

/-- A JavaScript string. -/
abbrev Text := List Char

instance lawfulBEqText : LawfulBEq (List Char) := inferInstance

/-! ## Trimming and letter case -/

/-- The white space and line terminators that `trim` removes. -/
def isSpace (c : Char) : Bool :=
  let n := c.toNat
  decide ((9 ≤ n ∧ n ≤ 13) ∨ n = 32 ∨ n = 160 ∨ n = 0x1680 ∨ (0x2000 ≤ n ∧ n ≤ 0x200a) ∨
    n = 0x2028 ∨ n = 0x2029 ∨ n = 0x202f ∨ n = 0x205f ∨ n = 0x3000 ∨ n = 0xfeff)

def trim (s : Text) : Text := (s.dropWhile isSpace).rdropWhile isSpace

/-- A text without white space at its ends. -/
structure Trimmed (s : Text) : Prop where
  head : ∀ c ∈ s.head?, isSpace c = false
  last : ∀ c ∈ s.getLast?, isSpace c = false

theorem Trimmed.of_forall {s : Text} (h : ∀ c ∈ s, isSpace c = false) : Trimmed s :=
  ⟨fun c hc => h c (List.mem_of_mem_head? hc), fun c hc => h c (List.mem_of_mem_getLast? hc)⟩

theorem trim_eq_self {s : Text} (h : Trimmed s) : trim s = s := by
  have hleft : s.dropWhile isSpace = s := by
    cases s with
    | nil => rfl
    | cons c cs => exact List.dropWhile_cons_of_neg (by simp [h.head c rfl])
  unfold trim
  rw [hleft, List.rdropWhile_eq_self_iff]
  intro hne
  simp [h.last _ (List.getLast?_eq_some_getLast hne)]

theorem trimmed_trim (s : Text) : Trimmed (trim s) := by
  refine ⟨?_, ?_⟩
  · intro c hc
    obtain ⟨rest, hrest⟩ : trim s <+: s.dropWhile isSpace := List.rdropWhile_prefix _ _
    have hhead := List.head?_dropWhile_not isSpace s
    rw [← hrest, List.head?_append, Option.mem_def.mp hc] at hhead
    simpa using hhead
  · intro c hc
    have hne : trim s ≠ [] := by
      intro h
      simp [h] at hc
    have hlast := List.rdropWhile_last_not isSpace (s.dropWhile isSpace) hne
    rw [List.getLast?_eq_some_getLast hne, Option.mem_some_iff] at hc
    rw [← hc]
    exact Bool.eq_false_iff.mpr hlast

/-- Trimming twice is trimming once. -/
theorem trim_trim (s : Text) : trim (trim s) = trim s := trim_eq_self (trimmed_trim s)

/-! ## Digits -/

def isHexDigit (c : Char) : Bool :=
  let n := c.toNat
  decide ((48 ≤ n ∧ n ≤ 57) ∨ (97 ≤ n ∧ n ≤ 102) ∨ (65 ≤ n ∧ n ≤ 70))

def isDecDigit (c : Char) : Bool := decide (48 ≤ c.toNat ∧ c.toNat ≤ 57)

def digitValue (c : Char) : Nat :=
  let n := c.toNat
  if n ≤ 57 then n - 48 else if n ≤ 70 then n - 55 else n - 87

/-- The number that the digits stand for. -/
def ofDigits (base : Nat) (cs : Text) : Nat := cs.foldl (fun n c => n * base + digitValue c) 0

variable {c : Char} {n : Nat}

theorem ofDigits_append_singleton {base : Nat} {cs : Text} :
    ofDigits base (cs ++ [c]) = ofDigits base cs * base + digitValue c := by
  unfold ofDigits
  rw [List.foldl_append, List.foldl_cons, List.foldl_nil]

/-- `toString(16)` after the marker. -/
def hex (n : Nat) : Text := '0' :: 'x' :: Nat.toDigits 16 n

theorem digitChar_spec {d : Nat} (h : d < 16) :
    digitValue d.digitChar = d ∧ isHexDigit d.digitChar = true := by
  have key : ∀ d : Fin 16, digitValue d.val.digitChar = d.val ∧
      isHexDigit d.val.digitChar = true := by decide
  exact key ⟨d, h⟩

theorem ofDigits_toDigits (n : Nat) : ofDigits 16 (Nat.toDigits 16 n) = n := by
  induction n using Nat.strongRecOn with
  | ind n ih =>
    rw [Nat.toDigits_eq_if (by omega)]
    split
    · rename_i hlt
      have hvalue := (digitChar_spec hlt).1
      simp [ofDigits, hvalue]
    · have hrest := ih (n / 16) (by omega)
      have hvalue := (digitChar_spec (Nat.mod_lt n (by omega : 0 < 16))).1
      rw [ofDigits_append_singleton, hrest, hvalue]
      omega

theorem mem_toDigits : ∀ c ∈ Nat.toDigits 16 n, ∃ d, d < 16 ∧ c = d.digitChar := by
  induction n using Nat.strongRecOn with
  | ind n ih =>
    intro c hc
    rw [Nat.toDigits_eq_if (by omega)] at hc
    split at hc
    · rename_i hlt
      exact ⟨n, hlt, List.mem_singleton.mp hc⟩
    · rcases List.mem_append.mp hc with hmem | hmem
      · exact ih (n / 16) (by omega) c hmem
      · exact ⟨n % 16, Nat.mod_lt n (by omega), List.mem_singleton.mp hmem⟩

theorem isHexDigit_of_mem_toDigits (h : c ∈ Nat.toDigits 16 n) : isHexDigit c = true := by
  obtain ⟨d, hd, rfl⟩ := mem_toDigits c h
  exact (digitChar_spec hd).2

/-! ## Reading -/

def starknetFeltLimit : Nat := 2 ^ 251
def maxFeltInputLength : Nat := 78
def maxFeltRawInputLength : Nat := 256

/-- `0x` and hexadecimal digits. -/
def hexadecimal (s : Text) : Option Text :=
  match s with
  | '0' :: x :: ds =>
    if (x = 'x' ∨ x = 'X') ∧ ds ≠ [] ∧ ds.all isHexDigit then some ds else none
  | _ => none

/-- `/^(?:0[xX][0-9a-fA-F]+|[0-9]+)$/` -/
def starknetFeltPattern (s : Text) : Bool :=
  (hexadecimal s).isSome || (!s.isEmpty && s.all isDecDigit)

def bigInt (s : Text) : Nat :=
  match hexadecimal s with
  | some ds => ofDigits 16 ds
  | none => ofDigits 10 s

/-- `canonicalizeStarknetFelt`; all of its errors carry the same message. -/
def canonicalizeStarknetFelt (value : Text) : Option Text :=
  if maxFeltRawInputLength < value.length then none
  else
    let trimmed := trim value
    if trimmed.length = 0 ∨ maxFeltInputLength < trimmed.length ∨
        starknetFeltPattern trimmed = false then none
    else
      let felt := bigInt trimmed
      if starknetFeltLimit ≤ felt then none else some (hex felt)

def starknetFeltEquals (left right : Text) : Bool :=
  match canonicalizeStarknetFelt left, canonicalizeStarknetFelt right with
  | some l, some r => l == r
  | _, _ => false

def feltValue (value : Text) : Option Nat := (canonicalizeStarknetFelt value).map bigInt

/-! ## The canonical text -/

theorem hexadecimal_hex (n : Nat) : hexadecimal (hex n) = some (Nat.toDigits 16 n) := by
  have hall : (Nat.toDigits 16 n).all isHexDigit = true :=
    List.all_eq_true.mpr fun _ => isHexDigit_of_mem_toDigits
  simp [hex, hexadecimal, Nat.toDigits_ne_nil, hall]

theorem bigInt_hex (n : Nat) : bigInt (hex n) = n := by
  unfold bigInt
  rw [hexadecimal_hex]
  exact ofDigits_toDigits n

theorem hex_injective : Function.Injective hex := by
  intro n m h
  have hn := bigInt_hex n
  rw [h, bigInt_hex] at hn
  exact hn.symm

/-- What is accepted is the canonical text of a number below the limit. -/
theorem canonicalizeStarknetFelt_spec {value c : Text}
    (h : canonicalizeStarknetFelt value = some c) :
    c = hex (bigInt c) ∧ bigInt c < starknetFeltLimit := by
  unfold canonicalizeStarknetFelt at h
  dsimp only at h
  split at h
  · cases h
  split at h
  · cases h
  split at h
  · cases h
  · rename_i hlt
    cases h
    rw [bigInt_hex]
    exact ⟨rfl, not_le.mp hlt⟩

theorem isSpace_of_isHexDigit (h : isHexDigit c = true) : isSpace c = false := by
  unfold isHexDigit at h
  unfold isSpace
  have hc := of_decide_eq_true h
  apply decide_eq_false
  omega

theorem length_hex_le (h : n < starknetFeltLimit) : (hex n).length ≤ 65 := by
  have hle : n < 16 ^ 63 := lt_trans h (by decide)
  have := (Nat.length_toDigits_le_iff (by omega : 1 < 16) (by omega : 0 < 63)).mpr hle
  unfold hex
  rw [List.length_cons, List.length_cons]
  omega

theorem trim_hex (n : Nat) : trim (hex n) = hex n := by
  apply trim_eq_self
  apply Trimmed.of_forall
  intro c hc
  simp only [hex, List.mem_cons] at hc
  rcases hc with rfl | rfl | hc
  · rfl
  · rfl
  · exact isSpace_of_isHexDigit (isHexDigit_of_mem_toDigits hc)

/-- The canonical text of a felt is its own canonical form. -/
theorem canonicalizeStarknetFelt_hex (h : n < starknetFeltLimit) :
    canonicalizeStarknetFelt (hex n) = some (hex n) := by
  have hlength := length_hex_le h
  have htrim := trim_hex n
  have hpattern : starknetFeltPattern (hex n) = true := by
    simp [starknetFeltPattern, hexadecimal_hex]
  have hraw : ¬ maxFeltRawInputLength < (hex n).length := by
    unfold maxFeltRawInputLength
    omega
  have hshort : ¬ maxFeltInputLength < (hex n).length := by
    unfold maxFeltInputLength
    omega
  have hne : hex n ≠ [] := by simp [hex]
  unfold canonicalizeStarknetFelt
  simp [htrim, hraw, hshort, hne, hpattern, bigInt_hex, not_le.mpr h]

example : canonicalizeStarknetFelt " 0x00053C".toList = some "0x53c".toList := by decide
example : canonicalizeStarknetFelt "1340".toList = some "0x53c".toList := by decide

end App20.Domain
