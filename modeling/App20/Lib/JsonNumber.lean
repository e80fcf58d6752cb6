import App20.Lib.Utf16

/-!
# The numbers of JSON texts

A number in a text is a sign, digits, a fraction and an exponent, as far as they go. Which number
that is, and how a number is written, is left to a `NumberFormat`.

* `scanNumber_append`: a number is read up to the character that ends it.
-/

namespace App20.Lib

/-! ## Scanning -/

def scanInt : List Char → Option (List Char × List Char)
  | [] => none
  | '0' :: rest => some (['0'], rest)
  | c :: rest =>
    if c.isDigit then some ((c :: rest).takeWhile Char.isDigit, (c :: rest).dropWhile Char.isDigit)
    else none

def scanFraction : List Char → Option (List Char × List Char)
  | '.' :: rest =>
    if rest.takeWhile Char.isDigit = [] then none
    else some ('.' :: rest.takeWhile Char.isDigit, rest.dropWhile Char.isDigit)
  | s => some ([], s)

def scanSign : List Char → List Char × List Char
  | '+' :: rest => (['+'], rest)
  | '-' :: rest => (['-'], rest)
  | s => ([], s)

def scanExponent : List Char → Option (List Char × List Char)
  | [] => some ([], [])
  | e :: rest =>
    if e = 'e' ∨ e = 'E' then
      if (scanSign rest).2.takeWhile Char.isDigit = [] then none
      else some (e :: ((scanSign rest).1 ++ (scanSign rest).2.takeWhile Char.isDigit),
        (scanSign rest).2.dropWhile Char.isDigit)
    else some ([], e :: rest)

/-- A number without its sign. -/
def scanUnsigned (s : List Char) : Option (List Char × List Char) := do
  let (int, s) ← scanInt s
  let (fraction, s) ← scanFraction s
  let (exponent, s) ← scanExponent s
  return (int ++ (fraction ++ exponent), s)

def scanNumber : List Char → Option (List Char × List Char)
  | '-' :: rest => (scanUnsigned rest).map fun p => ('-' :: p.1, p.2)
  | s => scanUnsigned s

/-! ## What comes after -/

/-- What comes after a value: nothing, or a character that ends it. -/
def Delimited (rest : List Char) : Prop := ∀ c ∈ rest.head?, c = ',' ∨ c = ']' ∨ c = '}'

theorem delimited_nil : Delimited [] := fun _ hc => by cases hc

theorem delimited_cons {c : Char} (h : c = ',' ∨ c = ']' ∨ c = '}') (rest : List Char) :
    Delimited (c :: rest) := by
  intro d hd
  cases hd
  exact h

variable {t a t' rest : List Char}

theorem Delimited.not_digit (h : Delimited rest) : ∀ c ∈ rest.head?, c.isDigit = false := by
  intro c hc
  rcases h c hc with rfl | rfl | rfl
  · rfl
  · rfl
  · rfl

theorem takeWhile_append_of_head {α : Type} {p : α → Bool} (xs : List α) {ys : List α}
    (h : ∀ y ∈ ys.head?, p y = false) :
    (xs ++ ys).takeWhile p = xs.takeWhile p ∧ (xs ++ ys).dropWhile p = xs.dropWhile p ++ ys := by
  induction xs with
  | nil =>
    cases ys with
    | nil => exact ⟨rfl, rfl⟩
    | cons y ys =>
      have hy := h y rfl
      simp [hy]
  | cons x xs ih =>
    cases hx : p x
    · simp [hx]
    · simp [hx, ih.1, ih.2]

theorem scanInt_append (h : scanInt t = some (a, t')) (hrest : Delimited rest) :
    scanInt (t ++ rest) = some (a, t' ++ rest) := by
  obtain ⟨htake, hdrop⟩ := takeWhile_append_of_head t hrest.not_digit
  unfold scanInt at h
  split at h
  · cases h
  · cases h
    rfl
  · rename_i c s hzero
    split at h
    · rename_i hdigit
      cases h
      rw [List.cons_append] at htake hdrop ⊢
      rw [scanInt, if_pos hdigit, htake, hdrop]
      exact hzero
    · cases h

theorem scanFraction_append (h : scanFraction t = some (a, t')) (hrest : Delimited rest) :
    scanFraction (t ++ rest) = some (a, t' ++ rest) := by
  unfold scanFraction at h
  split at h
  · rename_i s
    obtain ⟨htake, hdrop⟩ := takeWhile_append_of_head s hrest.not_digit
    rw [List.cons_append]
    unfold scanFraction
    simp only
    rw [htake, hdrop]
    split at h
    · cases h
    · rename_i hdigits
      cases h
      rw [if_neg hdigits]
  · rename_i hpoint
    cases h
    unfold scanFraction
    split
    · rename_i s heq
      cases t with
      | nil =>
        have hhead := hrest '.' (by rw [List.nil_append] at heq; rw [heq]; rfl)
        exact absurd hhead (by decide)
      | cons c t => exact absurd (congrArg (· :: t) (List.cons.inj heq).1) (hpoint t)
    · rfl

theorem scanSign_append (hne : t ≠ []) :
    scanSign (t ++ rest) = ((scanSign t).1, (scanSign t).2 ++ rest) := by
  cases t with
  | nil => exact absurd rfl hne
  | cons c t =>
    rw [List.cons_append]
    unfold scanSign
    split
    · rename_i heq
      obtain ⟨rfl, rfl⟩ := List.cons.inj heq
      rfl
    · rename_i heq
      obtain ⟨rfl, rfl⟩ := List.cons.inj heq
      rfl
    · rename_i hplus hminus
      split
      · rename_i heq
        exact absurd (congrArg (· :: (t ++ rest)) (List.cons.inj heq).1) (hplus _)
      · rename_i heq
        exact absurd (congrArg (· :: (t ++ rest)) (List.cons.inj heq).1) (hminus _)
      · rfl

theorem scanExponent_append (h : scanExponent t = some (a, t')) (hrest : Delimited rest) :
    scanExponent (t ++ rest) = some (a, t' ++ rest) := by
  cases t with
  | nil =>
    cases h
    cases rest with
    | nil => rfl
    | cons c rest =>
      have hmark : ¬ (c = 'e' ∨ c = 'E') := by
        rcases hrest c rfl with rfl | rfl | rfl
        · decide
        · decide
        · decide
      unfold scanExponent
      rw [List.nil_append]
      simp only
      rw [if_neg hmark]
  | cons e t =>
    unfold scanExponent at h ⊢
    simp only [List.cons_append] at h ⊢
    split at h
    · rename_i hmark
      rw [if_pos hmark]
      split at h
      · cases h
      · rename_i hdigits
        have hne : t ≠ [] := by
          rintro rfl
          exact hdigits rfl
        obtain ⟨htake, hdrop⟩ := takeWhile_append_of_head (scanSign t).2 hrest.not_digit
        cases h
        rw [scanSign_append hne]
        simp only
        rw [htake, hdrop, if_neg hdigits]
    · rename_i hmark
      cases h
      rw [if_neg hmark]
      rfl

theorem scanUnsigned_append (h : scanUnsigned t = some (a, t')) (hrest : Delimited rest) :
    scanUnsigned (t ++ rest) = some (a, t' ++ rest) := by
  unfold scanUnsigned at h ⊢
  simp only [Option.bind_eq_bind, Option.bind_eq_some_iff, Option.pure_def, Option.some.injEq,
    Prod.mk.injEq] at h ⊢
  obtain ⟨⟨int, s₁⟩, hint, ⟨fraction, s₂⟩, hfraction, ⟨exponent, s₃⟩, hexponent, rfl, rfl⟩ := h
  exact ⟨_, scanInt_append hint hrest, _, scanFraction_append hfraction hrest, _,
    scanExponent_append hexponent hrest, rfl, rfl⟩

theorem scanNumber_append (h : scanNumber t = some (a, t')) (hrest : Delimited rest) :
    scanNumber (t ++ rest) = some (a, t' ++ rest) := by
  unfold scanNumber at h
  split at h
  · rename_i s
    obtain ⟨⟨b, s'⟩, hunsigned, heq⟩ := Option.map_eq_some_iff.mp h
    cases heq
    rw [List.cons_append]
    unfold scanNumber
    simp only
    rw [scanUnsigned_append hunsigned hrest]
    rfl
  · rename_i hminus
    have hne : t ≠ [] := by
      rintro rfl
      cases h
    cases t with
    | nil => exact absurd rfl hne
    | cons c t =>
      unfold scanNumber
      split
      · rename_i heq
        exact absurd (congrArg (· :: t) (List.cons.inj heq).1) (hminus _)
      · exact scanUnsigned_append h hrest

theorem scanNumber_head (h : scanNumber t = some (a, t')) :
    ∃ c s, t = c :: s ∧ (c = '-' ∨ c.isDigit = true) := by
  have hint : ∀ {s : List Char} {p : List Char × List Char}, scanUnsigned s = some p →
      ∃ c s', s = c :: s' ∧ c.isDigit = true := by
    intro s p hs
    unfold scanUnsigned at hs
    simp only [Option.bind_eq_bind, Option.bind_eq_some_iff] at hs
    obtain ⟨q, hq, -⟩ := hs
    unfold scanInt at hq
    split at hq
    · cases hq
    · exact ⟨_, _, rfl, rfl⟩
    · split at hq
      · rename_i hdigit
        exact ⟨_, _, rfl, hdigit⟩
      · cases hq
  unfold scanNumber at h
  split at h
  · exact ⟨_, _, rfl, .inl rfl⟩
  · obtain ⟨c, s, heq, hdigit⟩ := hint h
    exact ⟨c, s, heq, .inr hdigit⟩

/-! ## Formats -/

/-- How finite numbers are written, and what texts of numbers stand for; a number that is too large
has no finite value. -/
structure NumberFormat (N : Type) where
  toText : N → List Char
  ofText : List Char → Option N

/-- What is written is the text of a number, and is read as what it was. -/
structure NumberFormat.Lawful {N : Type} (format : NumberFormat N) : Prop where
  scanned : ∀ n, scanNumber (format.toText n) = some (format.toText n, [])
  ofText_toText : ∀ n, format.ofText (format.toText n) = some n

end App20.Lib
