import App20.Domain.Decimal

/-!
# Numbers of addresses

The number of a textual IPv4 or IPv6 address, read by hand.

* `IPv4`, `IPv6`: the spellings of addresses, with the numbers they stand for.
* `ipv4Value_text`, `ipv6Value_text`: every spelling is read as its number.
-/

namespace App20.Egress

open App20.Domain

/-! ## Reading -/

/-- Of a text that `isIP` takes for an IPv4 address. -/
def ipv4Value (address : Text) : Nat :=
  (address.splitOn '.').foldl (fun value octet => value <<< 8 ||| ofDigits 10 octet) 0

/-- The last words of an address, in place of an IPv4 address after the last colon. -/
def embed (input : Text) : Text :=
  if '.' ∈ input then
    let ipv4 := ipv4Value (input.rtakeWhile (· ≠ ':'))
    (input.rdropWhile (· ≠ ':')).dropLast ++
      ':' :: (Nat.toDigits 16 (ipv4 >>> 16) ++ ':' :: Nat.toDigits 16 (ipv4 % 65536))
  else input

/-- `split("::")` -/
def splitDouble : Text → List Text
  | [] => [[]]
  | [c] => [[c]]
  | c :: d :: rest =>
    if c = ':' ∧ d = ':' then [] :: splitDouble rest
    else (splitDouble (d :: rest)).modifyHead (c :: ·)

def splitWords (half : Text) : List Text := if half = [] then [] else half.splitOn ':'

def addressWords (input : Text) : List Text :=
  match splitDouble input with
  | [left, right] =>
    splitWords left ++ List.replicate (8 - (splitWords left).length - (splitWords right).length)
      ['0'] ++ splitWords right
  | left :: _ => splitWords left
  | [] => []

/-- Of a text that `isIP` takes for an IPv6 address. -/
def ipv6Value (address : Text) : Nat :=
  (addressWords (embed (address.map Char.toLower))).foldl
    (fun value word => value <<< 16 ||| ofDigits 16 (if word = [] then ['0'] else word)) 0

/-! ## Spellings -/

/-- Decimal digits without a leading zero, up to 255. -/
abbrev Octet := {s : Text // isDecimal s = true ∧ ofDigits 10 s < 256}

/-- One to four hexadecimal digits, in any case. -/
abbrev Group := {s : Text // s ≠ [] ∧ s.length ≤ 4 ∧ s.all isHexDigit = true}

def Octet.value (o : Octet) : Nat := ofDigits 10 o.1

def Group.value (g : Group) : Nat := ofDigits 16 g.1

structure IPv4 where
  a : Octet
  b : Octet
  c : Octet
  d : Octet

def IPv4.text (q : IPv4) : Text := ['.'].intercalate [q.a.1, q.b.1, q.c.1, q.d.1]

def IPv4.value (q : IPv4) : Nat :=
  ((q.a.value * 256 + q.b.value) * 256 + q.c.value) * 256 + q.d.value

/-- How many words the embedded address stands for. -/
def tailLength : Option IPv4 → Nat
  | none => 0
  | some _ => 2

/-- Groups, of which some may be left out once, and an embedded IPv4 address at the end. -/
structure IPv6 where
  left : List Group
  /-- What stands after the double colon, if there is one. -/
  right : Option (List Group)
  tail : Option IPv4
  count : match right with
    | none => left.length + tailLength tail = 8
    | some groups => left.length + groups.length + tailLength tail ≤ 7

def colons (parts : List Text) : Text := [':'].intercalate parts

/-- Groups and an embedded address, as they are separated by colons. -/
def parts (groups : List Group) (tail : Option IPv4) : List Text :=
  groups.map Subtype.val ++ (tail.map IPv4.text).toList

def spell (left : List Group) (right : Option (List Group)) (tail : Option IPv4) : Text :=
  match right with
  | none => colons (parts left tail)
  | some groups => colons (parts left none) ++ ':' :: ':' :: colons (parts groups tail)

def IPv6.text (a : IPv6) : Text := spell a.left a.right a.tail

def tailWords : Option IPv4 → List Nat
  | none => []
  | some q => [q.value / 65536, q.value % 65536]

def spelledWords (left : List Group) (right : Option (List Group)) (tail : Option IPv4) :
    List Nat :=
  match right with
  | none => left.map Group.value ++ tailWords tail
  | some groups =>
    left.map Group.value ++
      List.replicate (8 - left.length - (groups.length + tailLength tail)) 0 ++
      (groups.map Group.value ++ tailWords tail)

/-- The number that words of 16 bits stand for. -/
def joined (words : List Nat) : Nat := words.foldl (fun value word => value * 65536 + word) 0

def IPv6.value (a : IPv6) : Nat := joined (spelledWords a.left a.right a.tail)

/-! ## IPv4 -/

variable {s t : Text} {value : Nat} {c : Char} {xs : List Text}

theorem ofDigits_lt {base : Nat} (h : ∀ c ∈ s, digitValue c < base) :
    ofDigits base s < base ^ s.length := by
  induction s using List.reverseRecOn with
  | nil => exact Nat.one_pos
  | append_singleton s c ih =>
    have hs := ih fun d hd => h d (List.mem_append_left _ hd)
    have hc := h c (List.mem_append_right _ (List.mem_singleton_self c))
    rw [ofDigits_append_singleton, List.length_append, List.length_singleton, Nat.pow_succ]
    calc ofDigits base s * base + digitValue c < ofDigits base s * base + base := by omega
      _ = (ofDigits base s + 1) * base := by rw [Nat.add_mul, Nat.one_mul]
      _ ≤ base ^ s.length * base := Nat.mul_le_mul_right _ hs

/-- A word is put behind a number. -/
theorem shiftLeft_or {k word : Nat} (h : word < 2 ^ k) :
    value <<< k ||| word = value * 2 ^ k + word := by
  rw [← Nat.shiftLeft_add_eq_or_of_lt h, Nat.shiftLeft_eq]

theorem isDecDigit_of_isDecimal (h : isDecimal s = true) : ∀ c ∈ s, isDecDigit c = true := by
  intro c hc
  by_cases hzero : s = ['0']
  · subst hzero
    obtain rfl := List.mem_singleton.mp hc
    rfl
  · obtain ⟨d, ds, rfl, hlow, hhigh, hall⟩ := (isDecimal_leading hzero).mp h
    rcases List.mem_cons.mp hc with rfl | hc
    · exact decide_eq_true ⟨by omega, hhigh⟩
    · exact hall c hc

theorem Octet.not_mem {o : Octet} (hc : isDecDigit c = false) : c ∉ o.1 := by
  intro hmem
  rw [isDecDigit_of_isDecimal o.2.1 c hmem] at hc
  cases hc

theorem ipv4Value_text (q : IPv4) : ipv4Value q.text = q.value := by
  have hdot : ∀ l ∈ [q.a.1, q.b.1, q.c.1, q.d.1], '.' ∉ l := by
    intro l hl
    simp only [List.mem_cons, List.not_mem_nil, or_false] at hl
    rcases hl with rfl | rfl | rfl | rfl <;> exact Octet.not_mem (by decide)
  unfold ipv4Value IPv4.text
  rw [List.splitOn_intercalate _ hdot (List.cons_ne_nil _ _)]
  simp only [List.foldl_cons, List.foldl_nil]
  rw [shiftLeft_or (k := 8) q.d.2.2, shiftLeft_or (k := 8) q.c.2.2, shiftLeft_or (k := 8) q.b.2.2,
    shiftLeft_or (k := 8) q.a.2.2]
  rw [Nat.zero_mul, Nat.zero_add]
  rfl

theorem IPv4.value_lt (q : IPv4) : q.value < 2 ^ 32 := by
  have ha := q.a.2.2
  have hb := q.b.2.2
  have hc := q.c.2.2
  have hd := q.d.2.2
  unfold IPv4.value Octet.value
  omega

/-! ## IPv6 -/

/-- Texts that are separated by colons: each of them is a word without a colon. -/
def Parts (xs : List Text) : Prop := ∀ x ∈ xs, x ≠ [] ∧ ':' ∉ x

theorem colons_singleton (x : Text) : colons [x] = x := by simp [colons]

theorem colons_cons {x : Text} (h : xs ≠ []) : colons (x :: xs) = x ++ ':' :: colons xs := by
  obtain ⟨y, ys, rfl⟩ := List.exists_cons_of_ne_nil h
  rfl

theorem colons_append {ys : List Text} (hx : xs ≠ []) (hy : ys ≠ []) :
    colons (xs ++ ys) = colons xs ++ ':' :: colons ys := by
  induction xs with
  | nil => exact absurd rfl hx
  | cons x xs ih =>
    by_cases hne : xs = []
    · subst hne
      rw [colons_singleton]
      exact colons_cons hy
    · rw [List.cons_append, colons_cons (List.append_ne_nil_of_left_ne_nil hne ys), ih hne,
        colons_cons hne, List.append_assoc]
      rfl

/-- No two colons in a row, and none at the end. -/
def Single : Text → Prop
  | [] => True
  | [c] => c ≠ ':'
  | c :: d :: rest => ¬ (c = ':' ∧ d = ':') ∧ Single (d :: rest)

theorem single_of_not_mem (h : ':' ∉ s) : Single s := by
  induction s with
  | nil => trivial
  | cons c s ih =>
    rw [List.mem_cons, not_or] at h
    cases s with
    | nil => exact Ne.symm h.1
    | cons d rest => exact ⟨fun hboth => h.1 hboth.1.symm, ih h.2⟩

theorem single_append (hs : ':' ∉ s) (ht : Single t) (hcons : ∀ c ∈ t.head?, c ≠ ':')
    (hne : t ≠ []) : Single (s ++ ':' :: t) := by
  induction s with
  | nil =>
    obtain ⟨c, t, rfl⟩ := List.exists_cons_of_ne_nil hne
    exact ⟨fun hboth => hcons c rfl hboth.2, ht⟩
  | cons c s ih =>
    rw [List.mem_cons, not_or] at hs
    have hrest := ih hs.2
    cases s with
    | nil | cons => exact ⟨fun hboth => hs.1 hboth.1.symm, hrest⟩

theorem head_of_parts (h : Parts xs) : ∀ c ∈ (colons xs).head?, c ≠ ':' := by
  cases xs with
  | nil => exact nofun
  | cons x xs =>
    obtain ⟨hne, hcolon⟩ := h x List.mem_cons_self
    obtain ⟨c, x, rfl⟩ := List.exists_cons_of_ne_nil hne
    have hc : c ≠ ':' := fun heq => hcolon (heq ▸ List.mem_cons_self)
    by_cases hxs : xs = []
    · subst hxs
      rintro d hd
      cases hd
      exact hc
    · rw [colons_cons hxs]
      rintro d hd
      cases hd
      exact hc

theorem colons_ne_nil (h : Parts xs) (hne : xs ≠ []) : colons xs ≠ [] := by
  obtain ⟨x, xs, rfl⟩ := List.exists_cons_of_ne_nil hne
  have hx := (h x List.mem_cons_self).1
  by_cases hxs : xs = []
  · subst hxs
    rw [colons_singleton]
    exact hx
  · rw [colons_cons hxs]
    exact List.append_ne_nil_of_left_ne_nil hx _

theorem single_colons (h : Parts xs) : Single (colons xs) := by
  induction xs with
  | nil => trivial
  | cons x xs ih =>
    have hx := (h x List.mem_cons_self).2
    have hrest : Parts xs := fun y hy => h y (List.mem_cons_of_mem x hy)
    by_cases hxs : xs = []
    · subst hxs
      rw [colons_singleton]
      exact single_of_not_mem hx
    · rw [colons_cons hxs]
      exact single_append hx (ih hrest) (head_of_parts hrest) (colons_ne_nil hrest hxs)

theorem splitDouble_cons {d : Char} {rest : Text} (h : ¬ (c = ':' ∧ d = ':')) :
    splitDouble (c :: d :: rest) = (splitDouble (d :: rest)).modifyHead (c :: ·) := if_neg h

theorem splitDouble_single (h : Single s) : splitDouble s = [s] := by
  induction s with
  | nil => rfl
  | cons c s ih =>
    cases s with
    | nil => rfl
    | cons d rest =>
      rw [splitDouble_cons h.1, ih h.2]
      rfl

theorem splitDouble_append (hs : Single s) :
    splitDouble (s ++ ':' :: ':' :: t) = s :: splitDouble t := by
  induction s with
  | nil => exact if_pos ⟨rfl, rfl⟩
  | cons c s ih =>
    cases s with
    | nil =>
      have hrest : splitDouble (':' :: ':' :: t) = [] :: splitDouble t := if_pos ⟨rfl, rfl⟩
      have hc : c ≠ ':' := hs
      have hboth : ¬ (c = ':' ∧ ':' = ':') := fun hboth => hc hboth.1
      exact (splitDouble_cons hboth).trans (congrArg (List.modifyHead (c :: ·)) hrest)
    | cons d rest =>
      have hrest := ih hs.2
      exact (splitDouble_cons hs.1).trans (congrArg (List.modifyHead (c :: ·)) hrest)

theorem splitWords_colons (h : Parts xs) : splitWords (colons xs) = xs := by
  unfold splitWords
  by_cases hne : xs = []
  · subst hne
    rfl
  · rw [if_neg (colons_ne_nil h hne)]
    exact List.splitOn_intercalate _ (fun x hx => (h x hx).2) hne

/-! ### Groups -/

theorem hexDigit_lower (h : isHexDigit c = true) :
    isHexDigit c.toLower = true ∧ digitValue c.toLower = digitValue c ∧ digitValue c < 16 ∧
      c ≠ ':' ∧ c ≠ '.' := by
  have hrange := of_decide_eq_true h
  have key : ∀ n : Fin 103, isHexDigit (Char.ofNat n.val) = true →
      isHexDigit (Char.ofNat n.val).toLower = true ∧
        digitValue (Char.ofNat n.val).toLower = digitValue (Char.ofNat n.val) ∧
        digitValue (Char.ofNat n.val) < 16 ∧ Char.ofNat n.val ≠ ':' ∧ Char.ofNat n.val ≠ '.' := by
    decide
  have hn := key ⟨c.toNat, by omega⟩
  rw [Char.ofNat_toNat] at hn
  exact hn h

def Group.lower (g : Group) : Group :=
  ⟨g.1.map Char.toLower, by
    obtain ⟨hne, hlength, hall⟩ := g.2
    refine ⟨fun hnil => hne (List.map_eq_nil_iff.mp hnil), ?_, ?_⟩
    · rw [List.length_map]
      exact hlength
    rw [List.all_map, List.all_eq_true]
    exact fun c hc => (hexDigit_lower (List.all_eq_true.mp hall c hc)).1⟩

theorem Group.value_lower (g : Group) : g.lower.value = g.value := by
  have hdigits : ∀ c ∈ g.1, digitValue c.toLower = digitValue c := fun c hc =>
    (hexDigit_lower (List.all_eq_true.mp g.2.2.2 c hc)).2.1
  unfold Group.value Group.lower ofDigits
  rw [List.foldl_map]
  exact List.foldl_ext _ _ _ fun n c hc => by rw [hdigits c hc]

theorem Group.value_lt (g : Group) : g.value < 65536 := by
  have hlt : g.value < 16 ^ g.1.length := ofDigits_lt fun c hc =>
    (hexDigit_lower (List.all_eq_true.mp g.2.2.2 c hc)).2.2.1
  have hpow : 16 ^ g.1.length ≤ 16 ^ 4 := Nat.pow_le_pow_right (by omega) g.2.2.1
  omega

theorem Group.not_mem (g : Group) : ':' ∉ g.1 ∧ '.' ∉ g.1 := by
  have hhex := List.all_eq_true.mp g.2.2.2
  exact ⟨fun hc => (hexDigit_lower (hhex _ hc)).2.2.2.1 rfl,
    fun hc => (hexDigit_lower (hhex _ hc)).2.2.2.2 rfl⟩

theorem parts_groups (groups : List Group) : Parts (parts groups none) := by
  intro x hx
  rw [parts, Option.map_none, Option.toList_none, List.append_nil] at hx
  obtain ⟨g, -, rfl⟩ := List.mem_map.mp hx
  exact ⟨g.2.1, (Group.not_mem g).1⟩

def groupOf (n : Nat) (h : n < 65536) : Group :=
  ⟨Nat.toDigits 16 n, Nat.toDigits_ne_nil, by
    rw [Nat.length_toDigits_le_iff (by omega) (by omega)]
    omega, List.all_eq_true.mpr fun _ hc => isHexDigit_of_mem_toDigits hc⟩

theorem value_groupOf {n : Nat} (h : n < 65536) : (groupOf n h).value = n := ofDigits_toDigits n

/-! ### Letter case -/

theorem map_colons {f : Char → Char} (hf : f ':' = ':') (xs : List Text) :
    (colons xs).map f = colons (xs.map (List.map f)) := by
  induction xs with
  | nil => rfl
  | cons x xs ih =>
    by_cases hxs : xs = []
    · subst hxs
      rw [colons_singleton, List.map_singleton, colons_singleton]
    · have hmap : xs.map (List.map f) ≠ [] := fun h => hxs (List.map_eq_nil_iff.mp h)
      rw [colons_cons hxs, List.map_append, List.map_cons, hf, ih, List.map_cons, colons_cons hmap]

theorem IPv4.text_eq (q : IPv4) :
    q.text = q.a.1 ++ '.' :: (q.b.1 ++ '.' :: (q.c.1 ++ '.' :: q.d.1)) := by
  simp [IPv4.text]

theorem IPv4.mem_text {q : IPv4} (h : c ∈ q.text) : isDecDigit c = true ∨ c = '.' := by
  have hdigit : ∀ o : Octet, ∀ d ∈ o.1, isDecDigit d = true := fun o =>
    isDecDigit_of_isDecimal o.2.1
  rw [IPv4.text_eq] at h
  simp only [List.mem_append, List.mem_cons] at h
  rcases h with h | h | h | h | h | h | h
  · exact .inl (hdigit _ _ h)
  · exact .inr h
  · exact .inl (hdigit _ _ h)
  · exact .inr h
  · exact .inl (hdigit _ _ h)
  · exact .inr h
  · exact .inl (hdigit _ _ h)

theorem toLower_of_decDigit (h : isDecDigit c = true ∨ c = '.') : c.toLower = c ∧ c ≠ ':' := by
  have key : ∀ n : Fin 58, isDecDigit (Char.ofNat n.val) = true →
      (Char.ofNat n.val).toLower = Char.ofNat n.val ∧ Char.ofNat n.val ≠ ':' := by decide
  rcases h with h | rfl
  · have hrange := of_decide_eq_true h
    have hn := key ⟨c.toNat, by omega⟩
    rw [Char.ofNat_toNat] at hn
    exact hn h
  · decide

theorem map_lower_parts (groups : List Group) (tail : Option IPv4) :
    (parts groups tail).map (List.map Char.toLower) = parts (groups.map Group.lower) tail := by
  have hgroups : (groups.map Subtype.val).map (List.map Char.toLower) =
      (groups.map Group.lower).map Subtype.val := by
    rw [List.map_map, List.map_map]
    rfl
  have htail : (tail.map IPv4.text).toList.map (List.map Char.toLower) =
      (tail.map IPv4.text).toList := by
    cases tail with
    | none => rfl
    | some q =>
      have hsame : q.text.map Char.toLower = q.text.map id := List.map_congr_left fun c hc =>
        (toLower_of_decDigit (IPv4.mem_text hc)).1
      rw [List.map_id] at hsame
      exact congrArg (fun t => [t]) hsame
  unfold parts
  rw [List.map_append, hgroups, htail]

theorem map_lower_spell (left : List Group) (right : Option (List Group)) (tail : Option IPv4) :
    (spell left right tail).map Char.toLower =
      spell (left.map Group.lower) (right.map (List.map Group.lower)) tail := by
  have hcolon : Char.toLower ':' = ':' := by decide
  cases right with
  | none =>
    change (colons (parts left tail)).map _ = colons (parts (left.map Group.lower) tail)
    rw [map_colons hcolon, map_lower_parts]
  | some groups =>
    change (colons (parts left none) ++ ':' :: ':' :: colons (parts groups tail)).map _ =
      colons (parts (left.map Group.lower) none) ++
        ':' :: ':' :: colons (parts (groups.map Group.lower) tail)
    rw [List.map_append, List.map_cons, List.map_cons, hcolon, map_colons hcolon,
      map_colons hcolon, map_lower_parts, map_lower_parts]

/-! ### The embedded address -/

theorem not_mem_colons (hc : c ≠ ':') (h : ∀ x ∈ xs, c ∉ x) : c ∉ colons xs := by
  induction xs with
  | nil => exact List.not_mem_nil
  | cons x xs ih =>
    have hx := h x List.mem_cons_self
    by_cases hxs : xs = []
    · subst hxs
      rw [colons_singleton]
      exact hx
    · have hrest := ih fun y hy => h y (List.mem_cons_of_mem x hy)
      rw [colons_cons hxs, List.mem_append, List.mem_cons, not_or, not_or]
      exact ⟨hx, hc, hrest⟩

theorem not_mem_groups (groups : List Group) : '.' ∉ colons (parts groups none) := by
  refine not_mem_colons (by decide) fun x hx => ?_
  rw [parts, Option.map_none, Option.toList_none, List.append_nil] at hx
  obtain ⟨g, -, rfl⟩ := List.mem_map.mp hx
  exact (Group.not_mem g).2

/-- Without an embedded address, nothing is replaced. -/
theorem embed_groups (left : List Group) (right : Option (List Group)) :
    embed (spell left right none) = spell left right none := by
  have hdot : '.' ∉ spell left right none := by
    cases right with
    | none => exact not_mem_groups left
    | some groups =>
      change '.' ∉ colons (parts left none) ++ ':' :: ':' :: colons (parts groups none)
      rw [List.mem_append, List.mem_cons, List.mem_cons, not_or, not_or, not_or]
      exact ⟨not_mem_groups left, by decide, by decide, not_mem_groups groups⟩
  exact if_neg hdot

/-- The two groups that an embedded address is replaced by. -/
def tailGroups (q : IPv4) : List Group :=
  [groupOf (q.value >>> 16) (by
      have hlt := q.value_lt
      rw [Nat.shiftRight_eq_div_pow]
      omega),
    groupOf (q.value % 65536) (Nat.mod_lt _ (by omega))]

/-- What follows the last character that fails a predicate. -/
theorem split_last {p : Char → Bool} (ht : ∀ d ∈ t, p d = true) (hc : p c = false) :
    (s ++ c :: t).rtakeWhile p = t ∧ (s ++ c :: t).rdropWhile p = s ++ [c] := by
  have hreverse : (s ++ c :: t).reverse = t.reverse ++ c :: s.reverse := by simp
  have hall : ∀ d ∈ t.reverse, p d = true := fun d hd => ht d (List.mem_reverse.mp hd)
  constructor
  · rw [List.rtakeWhile, hreverse, List.takeWhile_append_of_pos hall, List.takeWhile_cons, hc]
    simp
  · rw [List.rdropWhile, hreverse, List.dropWhile_append_of_pos hall, List.dropWhile_cons, hc]
    simp

theorem parts_ne_nil {groups : List Group} (h : groups ≠ []) : parts groups none ≠ [] := by
  intro hnil
  rw [parts, Option.map_none, Option.toList_none, List.append_nil, List.map_eq_nil_iff] at hnil
  exact h hnil

theorem colons_tailGroups (q : IPv4) : colons (parts (tailGroups q) none) =
    Nat.toDigits 16 (q.value >>> 16) ++ ':' :: Nat.toDigits 16 (q.value % 65536) := by
  have hparts : parts (tailGroups q) none =
      [Nat.toDigits 16 (q.value >>> 16), Nat.toDigits 16 (q.value % 65536)] := rfl
  rw [hparts, colons_cons (List.cons_ne_nil _ _), colons_singleton]

theorem embed_append (s : Text) (q : IPv4) :
    embed (s ++ ':' :: q.text) = s ++ ':' :: colons (parts (tailGroups q) none) := by
  have hcolon : ∀ c ∈ q.text, decide (c ≠ ':') = true := fun c hc =>
    decide_eq_true (toLower_of_decDigit (IPv4.mem_text hc)).2
  have hdot : '.' ∈ s ++ ':' :: q.text := by
    rw [IPv4.text_eq]
    simp
  obtain ⟨htail, hhead⟩ := split_last (s := s) hcolon (c := ':') (by decide)
  unfold embed
  rw [if_pos hdot]
  simp only
  rw [htail, hhead, ipv4Value_text, List.dropLast_concat, colons_tailGroups]

theorem parts_append (groups : List Group) (q : IPv4) :
    parts (groups ++ tailGroups q) none = parts groups none ++ parts (tailGroups q) none := by
  simp [parts]

theorem parts_some (groups : List Group) (q : IPv4) :
    parts groups (some q) = parts groups none ++ [q.text] := by
  simp [parts]

theorem embed_full {left : List Group} (q : IPv4) (hne : left ≠ []) :
    embed (spell left none (some q)) = spell (left ++ tailGroups q) none none := by
  have hparts := parts_ne_nil hne
  change embed (colons (parts left (some q))) = colons (parts (left ++ tailGroups q) none)
  rw [parts_some, colons_append hparts (List.cons_ne_nil _ _), colons_singleton, embed_append,
    parts_append, colons_append hparts (by simp [parts, tailGroups])]

theorem embed_short (left groups : List Group) (q : IPv4) :
    embed (spell left (some groups) (some q)) =
      spell left (some (groups ++ tailGroups q)) none := by
  change embed (colons (parts left none) ++ ':' :: ':' :: colons (parts groups (some q))) =
    colons (parts left none) ++ ':' :: ':' :: colons (parts (groups ++ tailGroups q) none)
  by_cases hne : groups = []
  · subst hne
    have happend := embed_append (colons (parts left none) ++ [':']) q
    simpa [parts, colons_singleton] using happend
  · have hparts := parts_ne_nil hne
    have happend := embed_append
      (colons (parts left none) ++ ':' :: ':' :: colons (parts groups none)) q
    rw [parts_some, colons_append hparts (List.cons_ne_nil _ _), colons_singleton, parts_append,
      colons_append hparts (by simp [parts, tailGroups])]
    simpa using happend

/-! ### The words -/

theorem addressWords_full (left : List Group) :
    addressWords (spell left none none) = left.map Subtype.val := by
  have hparts := parts_groups left
  unfold addressWords
  change (match splitDouble (colons (parts left none)) with
    | [left, right] => _
    | left :: _ => splitWords left
    | [] => []) = _
  rw [splitDouble_single (single_colons hparts)]
  simp only
  rw [splitWords_colons hparts]
  simp [parts]

theorem addressWords_short (left right : List Group) :
    addressWords (spell left (some right) none) =
      left.map Subtype.val ++ List.replicate (8 - left.length - right.length) ['0'] ++
        right.map Subtype.val := by
  have hleft := parts_groups left
  have hright := parts_groups right
  have hsplit : splitDouble (spell left (some right) none) =
      [colons (parts left none), colons (parts right none)] :=
    (splitDouble_append (single_colons hleft)).trans
      (congrArg _ (splitDouble_single (single_colons hright)))
  unfold addressWords
  rw [hsplit]
  simp only
  rw [splitWords_colons hleft, splitWords_colons hright]
  simp [parts]

theorem fold_words {words : List Text} (h : ∀ w ∈ words, w ≠ [] ∧ ofDigits 16 w < 65536) (n : Nat) :
    words.foldl (fun value word =>
        value <<< 16 ||| ofDigits 16 (if word = [] then ['0'] else word)) n =
      (words.map (ofDigits 16)).foldl (fun value word => value * 65536 + word) n := by
  induction words generalizing n with
  | nil => rfl
  | cons w words ih =>
    obtain ⟨hne, hlt⟩ := h w List.mem_cons_self
    rw [List.foldl_cons, List.map_cons, List.foldl_cons, if_neg hne, shiftLeft_or (k := 16) hlt]
    exact ih (fun v hv => h v (List.mem_cons_of_mem w hv)) _

theorem words_groups (left : List Group) (right : Option (List Group)) :
    (∀ w ∈ addressWords (spell left right none), w ≠ [] ∧ ofDigits 16 w < 65536) ∧
      (addressWords (spell left right none)).map (ofDigits 16) = spelledWords left right none := by
  have hgroup : ∀ (groups : List Group), ∀ w ∈ groups.map Subtype.val,
      w ≠ [] ∧ ofDigits 16 w < 65536 := by
    intro groups w hw
    obtain ⟨g, -, rfl⟩ := List.mem_map.mp hw
    exact ⟨g.2.1, Group.value_lt g⟩
  have hvalues : ∀ groups : List Group,
      (groups.map Subtype.val).map (ofDigits 16) = groups.map Group.value := by
    intro groups
    rw [List.map_map]
    rfl
  cases right with
  | none =>
    rw [addressWords_full, hvalues]
    exact ⟨hgroup left, (List.append_nil _).symm⟩
  | some right =>
    rw [addressWords_short]
    constructor
    · intro w hw
      rcases List.mem_append.mp hw with hw | hw
      · rcases List.mem_append.mp hw with hw | hw
        · exact hgroup left w hw
        · rw [List.eq_of_mem_replicate hw]
          decide
      · exact hgroup right w hw
    · have hzero : ofDigits 16 ['0'] = 0 := rfl
      rw [List.map_append, List.map_append, hvalues, hvalues, List.map_replicate, hzero]
      simp only [spelledWords, tailWords, tailLength, List.append_nil, Nat.add_zero]

theorem fold_groups (left : List Group) (right : Option (List Group)) :
    (addressWords (spell left right none)).foldl
        (fun value word => value <<< 16 ||| ofDigits 16 (if word = [] then ['0'] else word)) 0 =
      joined (spelledWords left right none) := by
  obtain ⟨hwords, hvalues⟩ := words_groups left right
  rw [fold_words hwords, hvalues]
  rfl

theorem spelledWords_lower (left : List Group) (right : Option (List Group)) (tail : Option IPv4) :
    spelledWords (left.map Group.lower) (right.map (List.map Group.lower)) tail =
      spelledWords left right tail := by
  have hvalues : ∀ groups : List Group,
      (groups.map Group.lower).map Group.value = groups.map Group.value := by
    intro groups
    rw [List.map_map]
    exact List.map_congr_left fun g _ => Group.value_lower g
  cases right with
  | none =>
    change (left.map Group.lower).map Group.value ++ _ = left.map Group.value ++ _
    rw [hvalues]
  | some right =>
    simp only [spelledWords, Option.map_some, List.length_map, hvalues]

theorem values_tailGroups (q : IPv4) : (tailGroups q).map Group.value = tailWords (some q) := by
  simp only [tailGroups, tailWords, List.map_cons, List.map_nil, value_groupOf,
    Nat.shiftRight_eq_div_pow]

theorem spelledWords_full (left : List Group) (q : IPv4) :
    spelledWords (left ++ tailGroups q) none none = spelledWords left none (some q) := by
  simp only [spelledWords, List.map_append, values_tailGroups, tailWords, List.append_nil]

theorem spelledWords_short (left right : List Group) (q : IPv4) :
    spelledWords left (some (right ++ tailGroups q)) none =
      spelledWords left (some right) (some q) := by
  have hlength : (right ++ tailGroups q).length + tailLength none =
      right.length + tailLength (some q) := List.length_append
  simp only [spelledWords]
  rw [hlength, List.map_append, values_tailGroups]
  simp only [tailWords, List.append_nil]

theorem ipv6Value_text (a : IPv6) : ipv6Value a.text = a.value := by
  obtain ⟨left, right, tail, hcount⟩ := a
  unfold ipv6Value IPv6.text IPv6.value
  rw [map_lower_spell, ← spelledWords_lower]
  cases tail with
  | none => rw [embed_groups, fold_groups]
  | some q =>
    cases right with
    | none =>
      have hne : left.map Group.lower ≠ [] := by
        intro hnil
        rw [List.map_eq_nil_iff] at hnil
        subst hnil
        cases hcount
      rw [Option.map_none, embed_full q hne, fold_groups, spelledWords_full]
    | some right =>
      rw [Option.map_some, embed_short, fold_groups, spelledWords_short]

/-! ## Public addresses -/

/-- A block, with the number of bits that its addresses share. -/
structure Cidr where
  base : Text
  bits : Nat

def refusedIPv4 : List Cidr :=
  [⟨"0.0.0.0".toList, 8⟩, ⟨"10.0.0.0".toList, 8⟩, ⟨"100.64.0.0".toList, 10⟩,
    ⟨"127.0.0.0".toList, 8⟩, ⟨"169.254.0.0".toList, 16⟩, ⟨"172.16.0.0".toList, 12⟩,
    ⟨"192.0.0.0".toList, 24⟩, ⟨"192.0.2.0".toList, 24⟩, ⟨"192.88.99.0".toList, 24⟩,
    ⟨"192.168.0.0".toList, 16⟩, ⟨"198.18.0.0".toList, 15⟩, ⟨"198.51.100.0".toList, 24⟩,
    ⟨"203.0.113.0".toList, 24⟩, ⟨"224.0.0.0".toList, 4⟩, ⟨"240.0.0.0".toList, 4⟩]

def refusedIPv6 : List Cidr :=
  [⟨"2001::".toList, 23⟩, ⟨"2001:2::".toList, 48⟩, ⟨"2001:20::".toList, 28⟩,
    ⟨"2001:db8::".toList, 32⟩, ⟨"2002::".toList, 16⟩, ⟨"3fff::".toList, 20⟩]

def ipv4InCidr (value : Nat) (block : Cidr) : Bool :=
  value >>> (32 - block.bits) = ipv4Value block.base >>> (32 - block.bits)

def ipv6InCidr (value : Nat) (block : Cidr) : Bool :=
  value >>> (128 - block.bits) = ipv6Value block.base >>> (128 - block.bits)

/-- `isIP` tells the family of a text: 4, 6, or 0 for one that is no address. -/
def isPublicAddress (isIP : Text → Nat) (address : Text) : Bool :=
  if isIP address = 4 then !refusedIPv4.any (ipv4InCidr (ipv4Value address))
  else if isIP address = 6 then
    decide (ipv6Value address >>> 125 = 1) && !refusedIPv6.any (ipv6InCidr (ipv6Value address))
  else false

/-- It recognises the spellings of addresses, and nothing else. -/
structure Exact (isIP : Text → Nat) : Prop where
  ipv4 : ∀ s, isIP s = 4 ↔ ∃ q : IPv4, s = q.text
  ipv6 : ∀ s, isIP s = 6 ↔ ∃ a : IPv6, s = a.text

/-- The addresses of a block, from its first one on; `width` is that of an address. -/
def InBlock (width base bits value : Nat) : Prop := base ≤ value ∧ value < base + 2 ^ (width - bits)

instance (width base bits value : Nat) : Decidable (InBlock width base bits value) :=
  inferInstanceAs (Decidable (_ ∧ _))

theorem shiftRight_eq_iff {k base : Nat} (h : 2 ^ k ∣ base) :
    value >>> k = base >>> k ↔ base ≤ value ∧ value < base + 2 ^ k := by
  obtain ⟨m, rfl⟩ := h
  have hpos : 0 < 2 ^ k := Nat.two_pow_pos k
  rw [Nat.shiftRight_eq_div_pow, Nat.shiftRight_eq_div_pow, Nat.mul_div_cancel_left _ hpos,
    Nat.div_eq_iff hpos]
  rw [Nat.mul_comm m]
  omega

theorem refusedIPv4_aligned : ∀ block ∈ refusedIPv4,
    2 ^ (32 - block.bits) ∣ ipv4Value block.base := by
  decide +kernel

theorem refusedIPv6_aligned : ∀ block ∈ refusedIPv6,
    2 ^ (128 - block.bits) ∣ ipv6Value block.base := by
  decide +kernel

/-- An address that is public: outside all blocks that are refused and, for IPv6, inside the block
of global unicast addresses. -/
inductive Public (s : Text) : Prop
  | ipv4 (q : IPv4) (text : s = q.text)
    (outside : ∀ block ∈ refusedIPv4, ¬ InBlock 32 (ipv4Value block.base) block.bits q.value)
  | ipv6 (a : IPv6) (text : s = a.text) (inside : InBlock 128 (0x2000 * 2 ^ 112) 3 a.value)
    (outside : ∀ block ∈ refusedIPv6, ¬ InBlock 128 (ipv6Value block.base) block.bits a.value)

theorem outside_iff {width : Nat} {blocks : List Cidr} {number : Text → Nat} {inCidr : Cidr → Bool}
    (hcidr : ∀ block ∈ blocks, inCidr block = true ↔
      value >>> (width - block.bits) = number block.base >>> (width - block.bits))
    (haligned : ∀ block ∈ blocks, 2 ^ (width - block.bits) ∣ number block.base) :
    (!blocks.any inCidr) = true ↔
      ∀ block ∈ blocks, ¬ InBlock width (number block.base) block.bits value := by
  rw [Bool.not_eq_true', List.any_eq_false]
  refine forall₂_congr fun block hblock => not_congr ?_
  rw [hcidr block hblock]
  exact shiftRight_eq_iff (haligned block hblock)

theorem isPublicAddress_iff {isIP : Text → Nat} (hexact : Exact isIP) (s : Text) :
    isPublicAddress isIP s = true ↔ Public s := by
  have hipv4 : ∀ q : IPv4, (!refusedIPv4.any (ipv4InCidr (ipv4Value q.text))) = true ↔
      ∀ block ∈ refusedIPv4, ¬ InBlock 32 (ipv4Value block.base) block.bits q.value := by
    intro q
    rw [ipv4Value_text]
    exact outside_iff (fun _ _ => decide_eq_true_iff) refusedIPv4_aligned
  have hipv6 : ∀ a : IPv6, (!refusedIPv6.any (ipv6InCidr (ipv6Value a.text))) = true ↔
      ∀ block ∈ refusedIPv6, ¬ InBlock 128 (ipv6Value block.base) block.bits a.value := by
    intro a
    rw [ipv6Value_text]
    exact outside_iff (fun _ _ => decide_eq_true_iff) refusedIPv6_aligned
  have hunicast : ∀ n : Nat, n >>> 125 = 1 ↔ InBlock 128 (0x2000 * 2 ^ 112) 3 n := by
    intro n
    have haligned : 2 ^ 125 ∣ 0x2000 * 2 ^ 112 := by decide
    exact shiftRight_eq_iff haligned
  unfold isPublicAddress
  constructor
  · intro h
    split at h
    · rename_i hfamily
      obtain ⟨q, rfl⟩ := (hexact.ipv4 s).mp hfamily
      exact .ipv4 q rfl ((hipv4 q).mp h)
    · split at h
      · rename_i hfamily
        obtain ⟨a, rfl⟩ := (hexact.ipv6 s).mp hfamily
        rw [Bool.and_eq_true, decide_eq_true_eq, ipv6Value_text, hunicast] at h
        rw [← ipv6Value_text] at h
        exact .ipv6 a rfl (ipv6Value_text a ▸ h.1) ((hipv6 a).mp h.2)
      · cases h
  · rintro (⟨q, rfl, hq⟩ | ⟨a, rfl, hinside, ha⟩)
    · rw [if_pos ((hexact.ipv4 _).mpr ⟨q, rfl⟩)]
      exact (hipv4 q).mpr hq
    · have hfamily := (hexact.ipv6 _).mpr ⟨a, rfl⟩
      rw [if_neg (by rw [hfamily]; decide), if_pos hfamily, Bool.and_eq_true, decide_eq_true_eq,
        ipv6Value_text, hunicast, ← ipv6Value_text]
      exact ⟨(ipv6Value_text a).symm ▸ hinside, (hipv6 a).mpr ha⟩

end App20.Egress
