import App20.Lib.Wire

/-!
# The text of a JSON value

What `JSON.stringify` writes of a value made of `null`, texts, integers, arrays and objects. The text
fixes the value: two values with one text are the same.

* `escape_prefixCode`, `decimal_append_inj`: the characters of a text and the digits of a number.
* `render_injective`: the values.
-/

namespace App20.Lib

/-! ## Texts -/

/-- How a character stands between quotes. -/
def escape (c : Char) : List Char :=
  if c = '"' then ['\\', '"']
  else if c = '\\' then ['\\', '\\']
  else if c.toNat = 8 then ['\\', 'b']
  else if c.toNat = 12 then ['\\', 'f']
  else if c.toNat = 10 then ['\\', 'n']
  else if c.toNat = 13 then ['\\', 'r']
  else if c.toNat = 9 then ['\\', 't']
  else if c.toNat < 32 then
    ['\\', 'u', '0', '0', (c.toNat / 16).digitChar, (c.toNat % 16).digitChar]
  else [c]

/-- The value of a hexadecimal digit. -/
def digitOf (c : Char) : Nat := if c.toNat < 58 then c.toNat - 48 else c.toNat - 87

/-- The character at the front of what stands between quotes, and the rest. -/
def unescape : List Char → Option (Char × List Char)
  | '\\' :: 'u' :: '0' :: '0' :: x :: y :: rest =>
    some (Char.ofNat (digitOf x * 16 + digitOf y), rest)
  | '\\' :: 'b' :: rest => some (Char.ofNat 8, rest)
  | '\\' :: 'f' :: rest => some (Char.ofNat 12, rest)
  | '\\' :: 'n' :: rest => some (Char.ofNat 10, rest)
  | '\\' :: 'r' :: rest => some (Char.ofNat 13, rest)
  | '\\' :: 't' :: rest => some (Char.ofNat 9, rest)
  | '\\' :: c :: rest => some (c, rest)
  | c :: rest => some (c, rest)
  | [] => none

theorem char_eq_of_toNat {c : Char} {n : Nat} (h : c.toNat = n) : c = Char.ofNat n := by
  rw [← h, Char.ofNat_toNat]

theorem unescape_escape (c : Char) (rest : List Char) :
    unescape (escape c ++ rest) = some (c, rest) := by
  unfold escape
  split
  · rename_i h
    rw [h]
    rfl
  split
  · rename_i h
    rw [h]
    rfl
  split
  · rename_i h
    rw [char_eq_of_toNat h]
    rfl
  split
  · rename_i h
    rw [char_eq_of_toNat h]
    rfl
  split
  · rename_i h
    rw [char_eq_of_toNat h]
    rfl
  split
  · rename_i h
    rw [char_eq_of_toNat h]
    rfl
  split
  · rename_i h
    rw [char_eq_of_toNat h]
    rfl
  split
  · rename_i h
    have hdigits : ∀ n : Fin 32, digitOf (n.val / 16).digitChar * 16 +
        digitOf (n.val % 16).digitChar = n.val := by decide
    show some (Char.ofNat _, rest) = _
    rw [hdigits ⟨c.toNat, h⟩, Char.ofNat_toNat]
  · rename_i hslash _ _ _ _ _ _
    rw [List.singleton_append]
    unfold unescape
    split <;> simp_all

theorem escape_prefixCode : PrefixCode escape := by
  intro c d r s h
  have hread := unescape_escape c r
  rw [h, unescape_escape] at hread
  cases hread
  exact ⟨rfl, rfl⟩

/-- No character starts with the quote that ends a text. -/
theorem escape_head (c : Char) : ∃ d ds, escape c = d :: ds ∧ d ≠ '"' := by
  have hslash : '\\' ≠ '"' := by decide
  unfold escape
  split
  · exact ⟨_, _, rfl, hslash⟩
  split
  · exact ⟨_, _, rfl, hslash⟩
  split
  · exact ⟨_, _, rfl, hslash⟩
  split
  · exact ⟨_, _, rfl, hslash⟩
  split
  · exact ⟨_, _, rfl, hslash⟩
  split
  · exact ⟨_, _, rfl, hslash⟩
  split
  · exact ⟨_, _, rfl, hslash⟩
  split
  · exact ⟨_, _, rfl, hslash⟩
  · exact ⟨c, [], rfl, ‹¬ c = '"'›⟩

def quoted (s : List Char) : List Char := '"' :: (s.flatMap escape ++ ['"'])

theorem escaped_inj {s t r u : List Char}
    (h : s.flatMap escape ++ '"' :: r = t.flatMap escape ++ '"' :: u) : s = t ∧ r = u := by
  induction s generalizing t with
  | nil =>
    cases t with
    | nil => exact ⟨rfl, (List.cons.inj h).2⟩
    | cons d t =>
      obtain ⟨e, es, he, hne⟩ := escape_head d
      rw [List.flatMap_cons, he] at h
      exact absurd (List.cons.inj h).1.symm hne
  | cons c s ih =>
    cases t with
    | nil =>
      obtain ⟨e, es, he, hne⟩ := escape_head c
      rw [List.flatMap_cons, he] at h
      exact absurd (List.cons.inj h).1 hne
    | cons d t =>
      rw [List.flatMap_cons, List.flatMap_cons, List.append_assoc, List.append_assoc] at h
      obtain ⟨hsame, htail⟩ := escape_prefixCode h
      obtain ⟨hst, hrest⟩ := ih htail
      exact ⟨by rw [hsame, hst], hrest⟩

theorem quoted_prefixCode : PrefixCode quoted := by
  intro s t r u h
  simp only [quoted, List.cons_append, List.cons.injEq, List.append_assoc, List.nil_append,
    true_and] at h
  exact escaped_inj h

/-! ## Numbers -/

/-- `toString` of an integer. -/
def decimal (n : Int) : List Char :=
  if n < 0 then '-' :: Nat.toDigits 10 n.natAbs else Nat.toDigits 10 n.natAbs

/-- A text that does not go on with a digit. -/
def Ended (s : List Char) : Prop := ∀ c ∈ s.head?, c.isDigit = false

theorem toDigits_append_inj {m n : Nat} {r s : List Char} (hr : Ended r) (hs : Ended s)
    (h : Nat.toDigits 10 m ++ r = Nat.toDigits 10 n ++ s) : m = n ∧ r = s := by
  have hall : ∀ k, ∀ c ∈ Nat.toDigits 10 k, c.isDigit = true := fun k c hc =>
    Nat.isDigit_of_mem_toDigits (by omega) (by omega) hc
  have htake : ∀ k, ∀ t, Ended t → (Nat.toDigits 10 k ++ t).takeWhile Char.isDigit =
      Nat.toDigits 10 k := by
    intro k t ht
    rw [List.takeWhile_append_of_pos (hall k)]
    cases t with
    | nil => simp
    | cons c t => simp [ht c rfl]
  have hdigits : Nat.toDigits 10 m = Nat.toDigits 10 n := by
    rw [← htake m r hr, h, htake n s hs]
  rw [hdigits] at h
  refine ⟨?_, List.append_cancel_left h⟩
  have hm := Nat.ofDigitChars_toDigits (b := 10) (n := m) (by omega) (by omega)
  rw [hdigits, Nat.ofDigitChars_toDigits (by omega) (by omega)] at hm
  exact hm.symm

theorem toDigits_head (n : Nat) : ∃ c cs, Nat.toDigits 10 n = c :: cs ∧ c.isDigit = true := by
  cases hdigits : Nat.toDigits 10 n with
  | nil => exact absurd hdigits Nat.toDigits_ne_nil
  | cons c cs =>
    refine ⟨c, cs, rfl, Nat.isDigit_of_mem_toDigits (b := 10) (n := n) (by omega) (by omega) ?_⟩
    rw [hdigits]
    exact List.mem_cons_self

/-- The digits of a number are read in one way if no digit follows. -/
theorem decimal_append_inj {m n : Int} {r s : List Char} (hr : Ended r) (hs : Ended s)
    (h : decimal m ++ r = decimal n ++ s) : m = n ∧ r = s := by
  have hsign : ∀ k : Nat, ∀ t u : List Char, '-' :: t ≠ Nat.toDigits 10 k ++ u := by
    intro k t u hk
    obtain ⟨c, cs, hcs, hc⟩ := toDigits_head k
    rw [hcs] at hk
    rw [← (List.cons.inj hk).1] at hc
    cases hc
  unfold decimal at h
  split at h <;> split at h
  · obtain ⟨habs, hrest⟩ := toDigits_append_inj hr hs (List.cons.inj h).2
    exact ⟨by omega, hrest⟩
  · exact absurd h (hsign _ _ _)
  · exact absurd h.symm (hsign _ _ _)
  · obtain ⟨habs, hrest⟩ := toDigits_append_inj hr hs h
    exact ⟨by omega, hrest⟩

/-- A number starts with its sign or with a digit. -/
theorem decimal_append_ne {n : Int} {c : Char} {r s : List Char} (hsign : c ≠ '-')
    (hdigit : c.isDigit = false) : decimal n ++ r ≠ c :: s := by
  intro h
  unfold decimal at h
  split at h
  · exact hsign (List.cons.inj h).1.symm
  · obtain ⟨d, ds, hds, hd⟩ := toDigits_head n.natAbs
    rw [hds] at h
    rw [(List.cons.inj h).1, hdigit] at hd
    cases hd

theorem ended_nil : Ended [] := fun c hc => by cases hc

theorem decimal_injective : Function.Injective decimal := by
  intro m n h
  exact (decimal_append_inj ended_nil ended_nil (congrArg (· ++ []) h)).1

/-! ## Values -/

/-- A value that `JSON.stringify` writes. -/
inductive Tree where
  | null
  | text (s : List Char)
  | number (n : Int)
  | array (items : List Tree)
  | object (fields : List (List Char × Tree))

namespace Tree

mutual

/-- `JSON.stringify` -/
def render : Tree → List Char
  | .null => "null".toList
  | .text s => quoted s
  | .number n => decimal n
  | .array items => '[' :: renderItems true items
  | .object fields => '{' :: renderFields true fields

/-- The items of an array from the `first` one on, or from a later one. -/
def renderItems (first : Bool) : List Tree → List Char
  | [] => [']']
  | item :: items => (if first then [] else [',']) ++ (item.render ++ renderItems false items)

/-- The fields of an object from the `first` one on, or from a later one. -/
def renderFields (first : Bool) : List (List Char × Tree) → List Char
  | [] => ['}']
  | (name, value) :: fields =>
    (if first then [] else [',']) ++
      (quoted name ++ ':' :: (value.render ++ renderFields false fields))

end

/-- A value starts with none of the characters that end one. -/
theorem render_append_ne (v : Tree) {c : Char} {r s : List Char} (hc : c = ']' ∨ c = '}') :
    v.render ++ r ≠ c :: s := by
  cases v with
  | null | text t | array items | object fields =>
    rw [render]
    rcases hc with rfl | rfl <;> exact fun h => absurd (List.cons.inj h).1 (by decide)
  | number n =>
    rw [render]
    rcases hc with rfl | rfl <;> exact decimal_append_ne (by decide) (by decide)

theorem ended_renderItems (items : List Tree) (r : List Char) :
    Ended (renderItems false items ++ r) := by
  cases items with
  | nil | cons item items =>
    rw [renderItems]
    rintro c hc
    cases hc
    rfl

theorem ended_renderFields (fields : List (List Char × Tree)) (r : List Char) :
    Ended (renderFields false fields ++ r) := by
  cases fields with
  | nil | cons field fields =>
    rw [renderFields]
    rintro c hc
    cases hc
    rfl

mutual

theorem render_append_inj (v w : Tree) {r s : List Char} (hr : Ended r) (hs : Ended s)
    (h : v.render ++ r = w.render ++ s) : v = w ∧ r = s := by
  match v, w with
  | .null, .null =>
    rw [render] at h
    exact ⟨rfl, List.append_cancel_left h⟩
  | .text t, .text u =>
    rw [render, render] at h
    obtain ⟨rfl, hrest⟩ := quoted_prefixCode h
    exact ⟨rfl, hrest⟩
  | .number m, .number n =>
    rw [render, render] at h
    obtain ⟨rfl, hrest⟩ := decimal_append_inj hr hs h
    exact ⟨rfl, hrest⟩
  | .array xs, .array ys =>
    rw [render, render] at h
    obtain ⟨rfl, hrest⟩ := renderItems_append_inj true xs ys (List.cons.inj h).2
    exact ⟨rfl, hrest⟩
  | .object xs, .object ys =>
    rw [render, render] at h
    obtain ⟨rfl, hrest⟩ := renderFields_append_inj true xs ys (List.cons.inj h).2
    exact ⟨rfl, hrest⟩
  | .null, .text _ | .null, .array _ | .null, .object _
  | .text _, .null | .text _, .array _ | .text _, .object _
  | .array _, .null | .array _, .text _ | .array _, .object _
  | .object _, .null | .object _, .text _ | .object _, .array _ =>
    rw [render, render] at h
    exact absurd (List.cons.inj h).1 (by decide)
  | .number n, .null | .number n, .text _ | .number n, .array _ | .number n, .object _ =>
    rw [render, render] at h
    exact absurd h (decimal_append_ne (by decide) (by decide))
  | .null, .number n | .text _, .number n | .array _, .number n | .object _, .number n =>
    rw [render, render] at h
    exact absurd h.symm (decimal_append_ne (by decide) (by decide))

theorem renderItems_append_inj (first : Bool) (xs ys : List Tree) {r s : List Char}
    (h : renderItems first xs ++ r = renderItems first ys ++ s) : xs = ys ∧ r = s := by
  match xs, ys with
  | [], [] =>
    rw [renderItems] at h
    exact ⟨rfl, (List.cons.inj h).2⟩
  | [], y :: ys =>
    rw [renderItems, renderItems] at h
    cases first with
    | false => exact absurd (List.cons.inj h).1 (by decide)
    | true =>
      rw [if_pos rfl, List.nil_append, List.append_assoc] at h
      exact absurd h.symm (render_append_ne y (Or.inl rfl))
  | x :: xs, [] =>
    rw [renderItems, renderItems] at h
    cases first with
    | false => exact absurd (List.cons.inj h).1 (by decide)
    | true =>
      rw [if_pos rfl, List.nil_append, List.append_assoc] at h
      exact absurd h (render_append_ne x (Or.inl rfl))
  | x :: xs, y :: ys =>
    rw [renderItems, renderItems, List.append_assoc, List.append_assoc, List.append_assoc,
      List.append_assoc] at h
    obtain ⟨rfl, htail⟩ := render_append_inj x y (ended_renderItems xs r) (ended_renderItems ys s)
      (List.append_cancel_left h)
    obtain ⟨rfl, hrest⟩ := renderItems_append_inj false xs ys htail
    exact ⟨rfl, hrest⟩

theorem renderFields_append_inj (first : Bool) (xs ys : List (List Char × Tree)) {r s : List Char}
    (h : renderFields first xs ++ r = renderFields first ys ++ s) : xs = ys ∧ r = s := by
  match xs, ys with
  | [], [] =>
    rw [renderFields] at h
    exact ⟨rfl, (List.cons.inj h).2⟩
  | [], (name, value) :: ys =>
    rw [renderFields, renderFields] at h
    cases first <;> exact absurd (List.cons.inj h).1 (by decide)
  | (name, value) :: xs, [] =>
    rw [renderFields, renderFields] at h
    cases first <;> exact absurd (List.cons.inj h).1 (by decide)
  | (name, value) :: xs, (name', value') :: ys =>
    simp only [renderFields, List.append_assoc, List.cons_append] at h
    obtain ⟨rfl, hvalue⟩ := quoted_prefixCode (List.append_cancel_left h)
    obtain ⟨rfl, htail⟩ := render_append_inj value value' (ended_renderFields xs r)
      (ended_renderFields ys s) (List.cons.inj hvalue).2
    obtain ⟨rfl, hrest⟩ := renderFields_append_inj false xs ys htail
    exact ⟨rfl, hrest⟩

end

theorem renderFields_last (first : Bool) (fields : List (List Char × Tree)) :
    ∃ front, renderFields first fields = front ++ ['}'] := by
  induction fields generalizing first with
  | nil => exact ⟨[], by rw [renderFields]; rfl⟩
  | cons field fields ih =>
    obtain ⟨front, hfront⟩ := ih false
    obtain ⟨name, value⟩ := field
    rw [renderFields, hfront]
    exact ⟨_, by rw [← List.append_assoc, ← List.cons_append, ← List.append_assoc,
      ← List.append_assoc]⟩

/-- The text of an object stands between braces. -/
theorem render_object (fields : List (List Char × Tree)) :
    ∃ middle, render (.object fields) = '{' :: (middle ++ ['}']) := by
  obtain ⟨middle, hmiddle⟩ := renderFields_last true fields
  exact ⟨middle, by rw [render, hmiddle]⟩

/-- The text of a value fixes it. -/
theorem render_injective : Function.Injective render := by
  intro v w h
  exact (render_append_inj v w ended_nil ended_nil (congrArg (· ++ []) h)).1

end Tree

end App20.Lib
