import App20.Lib.JsonText

/-!
# Texts of UTF-16 code units

A text is a list of code units, of which some may be halves of pairs that stand alone. Between quotes
a pair stands as its character and a lone half as an escape, so that what is written has a UTF-8 form.

* `readUnits_escapeUnits`: what stands between quotes is read back.
-/

namespace App20.Lib

abbrev Units := List (Fin 65536)

instance lawfulBEqUnits : LawfulBEq (List (Fin 65536)) := inferInstance

/-! ## Code units -/

def unitsOf (c : Char) : Units :=
  if c.toNat < 0x10000 then [Fin.ofNat 65536 c.toNat]
  else [Fin.ofNat 65536 (0xd800 + (c.toNat - 0x10000) / 0x400),
    Fin.ofNat 65536 (0xdc00 + (c.toNat - 0x10000) % 0x400)]

def toUnits (s : List Char) : Units := s.flatMap unitsOf

def text (s : String) : Units := toUnits s.toList

def isHigh (u : Fin 65536) : Bool := decide (0xd800 ≤ u.val ∧ u.val < 0xdc00)

def isLow (u : Fin 65536) : Bool := decide (0xdc00 ≤ u.val ∧ u.val < 0xe000)

def pairChar (high low : Fin 65536) : Char :=
  Char.ofNat (0x10000 + (high.val - 0xd800) * 0x400 + (low.val - 0xdc00))

variable {high low u : Fin 65536}

theorem toNat_pairChar (hhigh : isHigh high = true) (hlow : isLow low = true) :
    (pairChar high low).toNat = 0x10000 + (high.val - 0xd800) * 0x400 + (low.val - 0xdc00) := by
  unfold isHigh at hhigh
  unfold isLow at hlow
  rw [decide_eq_true_eq] at hhigh hlow
  have hvalid : (0x10000 + (high.val - 0xd800) * 0x400 + (low.val - 0xdc00)).isValidChar := by
    right
    omega
  unfold pairChar
  rw [Char.ofNat, dif_pos hvalid]
  rfl

theorem unitsOf_pairChar (hhigh : isHigh high = true) (hlow : isLow low = true) :
    unitsOf (pairChar high low) = [high, low] := by
  have hvalue := toNat_pairChar hhigh hlow
  unfold isHigh at hhigh
  unfold isLow at hlow
  rw [decide_eq_true_eq] at hhigh hlow
  unfold unitsOf
  rw [hvalue, if_neg (by omega), List.cons.injEq, List.cons.injEq]
  refine ⟨Fin.ext ?_, Fin.ext ?_, rfl⟩
  · rw [Fin.val_ofNat]
    omega
  · rw [Fin.val_ofNat]
    omega

theorem toNat_ofNat (hhigh : isHigh u = false) (hlow : isLow u = false) :
    (Char.ofNat u.val).toNat = u.val := by
  unfold isHigh at hhigh
  unfold isLow at hlow
  rw [decide_eq_false_iff_not] at hhigh hlow
  have hvalid : u.val.isValidChar := by
    have hlt := u.isLt
    unfold Nat.isValidChar
    omega
  rw [Char.ofNat, dif_pos hvalid]
  rfl

theorem unitsOf_ofNat (hhigh : isHigh u = false) (hlow : isLow u = false) :
    unitsOf (Char.ofNat u.val) = [u] := by
  have hvalue := toNat_ofNat hhigh hlow
  have hlt := u.isLt
  unfold unitsOf
  rw [hvalue, if_pos hlt, List.cons.injEq]
  refine ⟨Fin.ext ?_, rfl⟩
  rw [Fin.val_ofNat]
  omega

/-! ## Escapes -/

/-- `\u` and four digits. -/
def hexEscape (u : Fin 65536) : List Char :=
  ['\\', 'u', (u.val / 4096).digitChar, (u.val / 256 % 16).digitChar, (u.val / 16 % 16).digitChar,
    (u.val % 16).digitChar]

/-- How a code unit that is not part of a pair stands between quotes. -/
def escapeUnit (u : Fin 65536) : List Char :=
  if isHigh u || isLow u then hexEscape u else escape (Char.ofNat u.val)

def escapeUnits : Units → List Char
  | [] => []
  | [u] => escapeUnit u
  | u :: v :: us =>
    if isHigh u && isLow v then pairChar u v :: escapeUnits us
    else escapeUnit u ++ escapeUnits (v :: us)

def quoteUnits (us : Units) : List Char := '"' :: (escapeUnits us ++ ['"'])

/-! ## Reading -/

def hexDigit? (c : Char) : Option Nat :=
  if 48 ≤ c.toNat ∧ c.toNat ≤ 57 then some (c.toNat - 48)
  else if 97 ≤ c.toNat ∧ c.toNat ≤ 102 then some (c.toNat - 87)
  else if 65 ≤ c.toNat ∧ c.toNat ≤ 70 then some (c.toNat - 55)
  else none

def hexUnit? (a b c d : Char) : Option (Fin 65536) := do
  let a ← hexDigit? a
  let b ← hexDigit? b
  let c ← hexDigit? c
  let d ← hexDigit? d
  return Fin.ofNat 65536 (((a * 16 + b) * 16 + c) * 16 + d)

def simpleEscape? : Char → Option (Fin 65536)
  | '"' => some 34
  | '\\' => some 92
  | '/' => some 47
  | 'b' => some 8
  | 'f' => some 12
  | 'n' => some 10
  | 'r' => some 13
  | 't' => some 9
  | _ => none

/-- What stands before the closing quote, and what comes after it. -/
def readUnits : List Char → Option (Units × List Char)
  | [] => none
  | '"' :: rest => some ([], rest)
  | '\\' :: 'u' :: a :: b :: c :: d :: rest => do
    let u ← hexUnit? a b c d
    let (us, tail) ← readUnits rest
    return (u :: us, tail)
  | '\\' :: e :: rest => do
    let u ← simpleEscape? e
    let (us, tail) ← readUnits rest
    return (u :: us, tail)
  | c :: rest =>
    if c.toNat < 32 then none
    else do
      let (us, tail) ← readUnits rest
      return (unitsOf c ++ us, tail)

theorem hexDigit?_digitChar {d : Nat} (h : d < 16) : hexDigit? d.digitChar = some d := by
  have hdigits : ∀ d : Fin 16, hexDigit? d.val.digitChar = some d.val := by decide
  exact hdigits ⟨d, h⟩

theorem readUnits_hexEscape (u : Fin 65536) (rest : List Char) :
    readUnits (hexEscape u ++ rest) = (readUnits rest).map fun p => (u :: p.1, p.2) := by
  have hu := u.isLt
  have hunit : hexUnit? (u.val / 4096).digitChar (u.val / 256 % 16).digitChar
      (u.val / 16 % 16).digitChar (u.val % 16).digitChar = some u := by
    unfold hexUnit?
    rw [hexDigit?_digitChar (by omega), hexDigit?_digitChar (by omega),
      hexDigit?_digitChar (by omega), hexDigit?_digitChar (by omega)]
    refine congrArg some (Fin.ext ?_)
    rw [Fin.val_ofNat]
    omega
  unfold hexEscape
  simp only [List.cons_append, List.nil_append]
  rw [readUnits, hunit]
  cases readUnits rest <;> rfl

theorem readUnits_plain {c : Char} (hquote : c ≠ '"') (hslash : c ≠ '\\') (hcontrol : 32 ≤ c.toNat)
    (rest : List Char) :
    readUnits (c :: rest) = (readUnits rest).map fun p => (unitsOf c ++ p.1, p.2) := by
  rw [readUnits]
  · rw [if_neg (by omega)]
    cases readUnits rest <;> rfl
  · exact hquote
  · intro a b c d e hc
    exact absurd hc hslash
  · intro e rest' hc
    exact absurd hc hslash

/-- Before a space and after it, every escape of a character is read as its code unit. -/
theorem readUnits_escape (hhigh : isHigh u = false) (hlow : isLow u = false) (rest : List Char) :
    readUnits (escape (Char.ofNat u.val) ++ rest) =
      (readUnits rest).map fun p => (u :: p.1, p.2) := by
  have hvalue := toNat_ofNat hhigh hlow
  have hunits := unitsOf_ofNat hhigh hlow
  have hsimple : ∀ {e : Char} {n : Fin 65536}, simpleEscape? e = some n → e ≠ 'u' → n = u →
      readUnits (['\\', e] ++ rest) = (readUnits rest).map fun p => (u :: p.1, p.2) := by
    intro e n he hu hn
    simp only [List.cons_append, List.nil_append]
    rw [readUnits]
    · rw [he, hn]
      cases readUnits rest <;> rfl
    · intro a b c d rest' heq
      exact absurd heq hu
  unfold escape
  split
  · rename_i h
    exact hsimple (n := 34) rfl (by decide) (Fin.ext (by rw [← hvalue, h]; rfl))
  split
  · rename_i h
    exact hsimple (n := 92) rfl (by decide) (Fin.ext (by rw [← hvalue, h]; rfl))
  rw [hvalue]
  split
  · rename_i h
    exact hsimple (n := 8) rfl (by decide) (Fin.ext h.symm)
  split
  · rename_i h
    exact hsimple (n := 12) rfl (by decide) (Fin.ext h.symm)
  split
  · rename_i h
    exact hsimple (n := 10) rfl (by decide) (Fin.ext h.symm)
  split
  · rename_i h
    exact hsimple (n := 13) rfl (by decide) (Fin.ext h.symm)
  split
  · rename_i h
    exact hsimple (n := 9) rfl (by decide) (Fin.ext h.symm)
  split
  · rename_i h
    have hzero : ['\\', 'u', '0', '0', (u.val / 16).digitChar, (u.val % 16).digitChar] =
        hexEscape u := by
      have h1 : u.val / 4096 = 0 := by omega
      have h2 : u.val / 256 % 16 = 0 := by omega
      have h3 : u.val / 16 % 16 = u.val / 16 := by omega
      unfold hexEscape
      rw [h1, h2, h3]
      rfl
    rw [hzero]
    exact readUnits_hexEscape u rest
  · rename_i hquote hslash _ _ _ _ _ hcontrol
    rw [List.singleton_append, readUnits_plain hquote hslash (by omega), hunits]
    rfl

theorem readUnits_escapeUnit (u : Fin 65536) (rest : List Char) :
    readUnits (escapeUnit u ++ rest) = (readUnits rest).map fun p => (u :: p.1, p.2) := by
  unfold escapeUnit
  split
  · exact readUnits_hexEscape u rest
  · rename_i h
    rw [Bool.or_eq_true, not_or, Bool.not_eq_true, Bool.not_eq_true] at h
    exact readUnits_escape h.1 h.2 rest

theorem readUnits_pairChar (hhigh : isHigh high = true) (hlow : isLow low = true) (rest : List Char) :
    readUnits (pairChar high low :: rest) =
      (readUnits rest).map fun p => (high :: low :: p.1, p.2) := by
  have hvalue := toNat_pairChar hhigh hlow
  have hne : ∀ c : Char, c.toNat < 0x10000 → pairChar high low ≠ c := by
    intro c hc heq
    rw [heq] at hvalue
    omega
  rw [readUnits_plain (hne _ (by decide)) (hne _ (by decide)) (by omega),
    unitsOf_pairChar hhigh hlow]
  rfl

theorem readUnits_escapeUnits (us : Units) (rest : List Char) :
    readUnits (escapeUnits us ++ '"' :: rest) = some (us, rest) := by
  induction us using escapeUnits.induct with
  | case1 => rfl
  | case2 u =>
    unfold escapeUnits
    rw [readUnits_escapeUnit]
    rfl
  | case3 u v us hpair ih =>
    unfold escapeUnits
    rw [if_pos hpair, List.cons_append]
    rw [Bool.and_eq_true] at hpair
    rw [readUnits_pairChar hpair.1 hpair.2, ih]
    rfl
  | case4 u v us hpair ih =>
    unfold escapeUnits
    rw [if_neg hpair, List.append_assoc, readUnits_escapeUnit, ih]
    rfl

end App20.Lib
