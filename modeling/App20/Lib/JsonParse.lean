import App20.Lib.JsonValue

/-!
# Writing and reading JSON

`JSON.stringify` writes a value without spaces; `JSON.parse` reads any text of the grammar. A reader
descends into arrays and objects, each time with less fuel; twice the length of the text is enough,
since there is a character for every item and for every bracket.

* `readValue_spec`: what is read.
* `readValue_stringify`, `parseJson_stringify`: the round trip.
* `stringify_injective`: values that JSON has a form for are fixed by their text.
* `integerFormat_lawful`: integers are written with their decimal digits.
-/

namespace App20.Lib

variable {N : Type}

/-! ## Writing -/

section Writing

variable (format : NumberFormat N)

mutual

/-- Of a value that JSON has a form for; what it has none for is written as `null`. -/
def stringify : JsValue N → List Char
  | .null | .nonFinite _ | .hole | .other => "null".toList
  | .bool b => if b then "true".toList else "false".toList
  | .number n => format.toText n
  | .string s => quoteUnits s
  | .array items => '[' :: (stringifyItems true items ++ [']'])
  | .object _ fields => '{' :: (stringifyFields true fields ++ ['}'])

/-- From the `first` item on, or from a later one. -/
def stringifyItems (first : Bool) : List (JsValue N) → List Char
  | [] => []
  | v :: items => (if first then [] else [',']) ++ (stringify v ++ stringifyItems false items)

def stringifyFields (first : Bool) : List (Units × JsValue N) → List Char
  | [] => []
  | field :: fields => (if first then [] else [',']) ++
      (quoteUnits field.1 ++ (':' :: (stringify field.2 ++ stringifyFields false fields)))

end

end Writing

/-! ## Reading -/

def isWhitespace (c : Char) : Bool := c == ' ' || c == '\t' || c == '\n' || c == '\r'

def skipWhitespace (s : List Char) : List Char := s.dropWhile isWhitespace

section Reading

variable (format : NumberFormat N)

def readLiteral : List Char → Option (JsValue N × List Char)
  | 'n' :: 'u' :: 'l' :: 'l' :: rest => some (.null, rest)
  | 't' :: 'r' :: 'u' :: 'e' :: rest => some (.bool true, rest)
  | 'f' :: 'a' :: 'l' :: 's' :: 'e' :: rest => some (.bool false, rest)
  | _ => none

def numberOf (s : List Char) : JsValue N :=
  match format.ofText s with
  | some n => .number n
  | none => .nonFinite (.infinity (decide (s.head? = some '-')))

mutual

def readValue : Nat → List Char → Option (JsValue N × List Char)
  | 0, _ => none
  | fuel + 1, s =>
    match skipWhitespace s with
    | [] => none
    | c :: rest =>
      if c = '"' then (readUnits rest).map fun p => (.string p.1, p.2)
      else if c = '[' then
        match skipWhitespace rest with
        | ']' :: rest => some (.array [], rest)
        | rest => (readItems fuel rest).map fun p => (.array p.1, p.2)
      else if c = '{' then
        match skipWhitespace rest with
        | '}' :: rest => some (.object .plain [], rest)
        | rest => (readFields fuel [] rest).map fun p => (.object .plain p.1, p.2)
      else if c = '-' ∨ c.isDigit = true then
        (scanNumber (c :: rest)).map fun p => (numberOf format p.1, p.2)
      else readLiteral (c :: rest)

/-- The items of an array, and what comes after its bracket. -/
def readItems : Nat → List Char → Option (List (JsValue N) × List Char)
  | 0, _ => none
  | fuel + 1, s =>
    match readValue fuel s with
    | none => none
    | some (v, rest) =>
      match skipWhitespace rest with
      | ',' :: rest => (readItems fuel rest).map fun p => (v :: p.1, p.2)
      | ']' :: rest => some ([v], rest)
      | _ => none

/-- The properties of an object, after those that were read. -/
def readFields : Nat → List (Units × JsValue N) → List Char →
    Option (List (Units × JsValue N) × List Char)
  | 0, _, _ => none
  | fuel + 1, fields, s =>
    match skipWhitespace s with
    | '"' :: rest =>
      match readUnits rest with
      | none => none
      | some (key, rest) =>
        match skipWhitespace rest with
        | ':' :: rest =>
          match readValue fuel rest with
          | none => none
          | some (v, rest) =>
            match skipWhitespace rest with
            | ',' :: rest => readFields fuel (setField fields key v) rest
            | '}' :: rest => some (setField fields key v, rest)
            | _ => none
        | _ => none
    | _ => none

end

def parseJson (s : List Char) : Option (JsValue N) :=
  match readValue format (2 * s.length + 2) s with
  | some (v, rest) => if skipWhitespace rest = [] then some v else none
  | none => none

end Reading

/-! ## What is read -/

/-- A value as it is read: data whose properties are listed as they are enumerated. -/
def IsRead (v : JsValue N) : Prop := v.Ordered ∧ v.every JsValue.isData = true

variable {format : NumberFormat N}

theorem isRead_array {items : List (JsValue N)} (h : ∀ v ∈ items, IsRead v) :
    IsRead (.array items) := by
  constructor
  · exact JsValue.orderedItems_iff.mpr fun v hv => (h v hv).1
  · unfold JsValue.every
    rw [Bool.and_eq_true]
    exact ⟨rfl, JsValue.everyItem_iff.mpr fun v hv => (h v hv).2⟩

theorem isRead_object {fields : List (Units × JsValue N)}
    (hkeys : (fields.map Prod.fst).Pairwise Follows) (h : ∀ field ∈ fields, IsRead field.2) :
    IsRead (.object .plain fields) := by
  constructor
  · exact ⟨hkeys, JsValue.orderedFields_iff.mpr fun field hfield => (h field hfield).1⟩
  · unfold JsValue.every
    rw [Bool.and_eq_true]
    exact ⟨rfl, JsValue.everyField_iff.mpr fun field hfield => (h field hfield).2⟩

structure FieldsRead (fields : List (Units × JsValue N)) : Prop where
  keys : (fields.map Prod.fst).Pairwise Follows
  values : ∀ field ∈ fields, IsRead field.2

theorem FieldsRead.set {fields : List (Units × JsValue N)} (h : FieldsRead fields) (key : Units)
    {v : JsValue N} (hv : IsRead v) : FieldsRead (setField fields key v) where
  keys := setField_ordered h.keys
  values := by
    intro field hfield
    rcases mem_setField hfield with rfl | hold
    · exact hv
    · exact h.values field hold

theorem fieldsRead_nil : FieldsRead ([] : List (Units × JsValue N)) :=
  ⟨List.Pairwise.nil, fun _ h => by cases h⟩

theorem readValue_spec (fuel : Nat) :
    (∀ s v rest, readValue format fuel s = some (v, rest) → IsRead v) ∧
    (∀ s items rest, readItems format fuel s = some (items, rest) → ∀ v ∈ items, IsRead v) ∧
    ∀ fields s fields' rest, FieldsRead fields →
      readFields format fuel fields s = some (fields', rest) → FieldsRead fields' := by
  induction fuel with
  | zero =>
    refine ⟨?_, ?_, ?_⟩
    · intro s v rest h
      rw [readValue] at h
      cases h
    · intro s items rest h
      rw [readItems] at h
      cases h
    · intro fields s fields' rest hfields h
      rw [readFields] at h
      cases h
  | succ fuel ih =>
    obtain ⟨ihValue, ihItems, ihFields⟩ := ih
    refine ⟨?_, ?_, ?_⟩
    · intro s v rest h
      rw [readValue] at h
      split at h
      · cases h
      · split at h
        · obtain ⟨p, -, heq⟩ := Option.map_eq_some_iff.mp h
          cases heq
          exact ⟨trivial, rfl⟩
        split at h
        · split at h
          · cases h
            exact isRead_array fun _ hv => by cases hv
          · obtain ⟨p, hp, heq⟩ := Option.map_eq_some_iff.mp h
            cases heq
            exact isRead_array (ihItems _ _ _ hp)
        split at h
        · split at h
          · cases h
            exact isRead_object List.Pairwise.nil fun _ hfield => by cases hfield
          · obtain ⟨p, hp, heq⟩ := Option.map_eq_some_iff.mp h
            cases heq
            have hread := ihFields _ _ _ _ fieldsRead_nil hp
            exact isRead_object hread.keys hread.values
        split at h
        · obtain ⟨p, -, heq⟩ := Option.map_eq_some_iff.mp h
          cases heq
          unfold numberOf
          split
          · exact ⟨trivial, rfl⟩
          · exact ⟨trivial, rfl⟩
        · unfold readLiteral at h
          split at h
          · cases h
            exact ⟨trivial, rfl⟩
          · cases h
            exact ⟨trivial, rfl⟩
          · cases h
            exact ⟨trivial, rfl⟩
          · cases h
    · intro s items rest h
      rw [readItems] at h
      split at h
      · cases h
      · rename_i v rest' hv
        have hvalue := ihValue _ _ _ hv
        split at h
        · obtain ⟨p, hp, heq⟩ := Option.map_eq_some_iff.mp h
          cases heq
          intro w hw
          rcases List.mem_cons.mp hw with rfl | hlater
          · exact hvalue
          · exact ihItems _ _ _ hp w hlater
        · cases h
          intro w hw
          rw [List.mem_singleton.mp hw]
          exact hvalue
        · cases h
    · intro fields s fields' rest hfields h
      rw [readFields] at h
      split at h
      · split at h
        · cases h
        · split at h
          · split at h
            · cases h
            · rename_i v rest' hv
              have hread := ihValue _ _ _ hv
              split at h
              · exact ihFields _ _ _ _ (hfields.set _ hread) h
              · cases h
                exact hfields.set _ hread
              · cases h
          · cases h
      · cases h

theorem parseJson_isRead {s : List Char} {v : JsValue N} (h : parseJson format s = some v) :
    IsRead v := by
  unfold parseJson at h
  split at h
  · rename_i w rest hread
    split at h
    · cases h
      exact (readValue_spec _).1 _ _ _ hread
    · cases h
  · cases h

/-! ## The round trip -/

theorem skipWhitespace_cons {c : Char} (h : isWhitespace c = false) (s : List Char) :
    skipWhitespace (c :: s) = c :: s := by
  unfold skipWhitespace
  rw [List.dropWhile_cons, h]
  rfl

theorem isWhitespace_of_digit {c : Char} (h : c = '-' ∨ c.isDigit = true) :
    isWhitespace c = false := by
  rcases h with rfl | hdigit
  · decide
  · unfold isWhitespace
    have hne : ∀ d : Char, d.isDigit = false → (c == d) = false := by
      intro d hd
      rw [beq_eq_false_iff_ne]
      rintro rfl
      rw [hd] at hdigit
      cases hdigit
    rw [hne ' ' (by decide), hne '\t' (by decide), hne '\n' (by decide), hne '\r' (by decide)]
    rfl

/-- What is written starts with a character that is no space and closes nothing. -/
theorem stringify_head (hlaw : format.Lawful) (v : JsValue N) :
    ∃ c s, stringify format v = c :: s ∧ isWhitespace c = false ∧ c ≠ ']' := by
  cases v with
  | number n =>
    obtain ⟨c, s, heq, hc⟩ := scanNumber_head (hlaw.scanned n)
    refine ⟨c, s, ?_, isWhitespace_of_digit hc, ?_⟩
    · rw [stringify, heq]
    · rintro rfl
      exact absurd hc (by decide)
  | bool b =>
    cases b with
    | false => exact ⟨'f', _, by rw [stringify]; rfl, by decide, by decide⟩
    | true => exact ⟨'t', _, by rw [stringify]; rfl, by decide, by decide⟩
  | null | nonFinite | hole | other => exact ⟨'n', _, by rw [stringify]; rfl, by decide, by decide⟩
  | string s => exact ⟨'"', _, by rw [stringify]; rfl, by decide, by decide⟩
  | array items => exact ⟨'[', _, by rw [stringify], by decide, by decide⟩
  | object kind fields => exact ⟨'{', _, by rw [stringify], by decide, by decide⟩

theorem stringifyItems_tail (v w : JsValue N) (items : List (JsValue N)) :
    stringifyItems format true (v :: w :: items) =
      stringify format v ++ (',' :: stringifyItems format true (w :: items)) := by
  rw [stringifyItems, stringifyItems, stringifyItems]
  rfl

theorem stringifyFields_tail (field next : Units × JsValue N) (fields : List (Units × JsValue N)) :
    stringifyFields format true (field :: next :: fields) =
      quoteUnits field.1 ++ (':' :: (stringify format field.2 ++
        (',' :: stringifyFields format true (next :: fields)))) := by
  rw [stringifyFields, stringifyFields, stringifyFields]
  rfl

theorem readUnits_quoteUnits (us : Units) (rest : List Char) :
    ∃ s, quoteUnits us ++ rest = '"' :: s ∧ readUnits s = some (us, rest) := by
  refine ⟨escapeUnits us ++ '"' :: rest, ?_, readUnits_escapeUnits us rest⟩
  unfold quoteUnits
  rw [List.cons_append, List.append_assoc]
  rfl

/-- A value that JSON has a form for. -/
def Written (v : JsValue N) : Prop :=
  v.Ordered ∧ v.every JsValue.isData = true ∧ v.every JsValue.isFinite = true

theorem written_item {v : JsValue N} {items : List (JsValue N)} (h : Written (.array items))
    (hv : v ∈ items) : Written v := by
  obtain ⟨hordered, hdata, hfinite⟩ := h
  unfold JsValue.every at hdata hfinite
  rw [Bool.and_eq_true] at hdata hfinite
  exact ⟨JsValue.orderedItems_iff.mp hordered v hv, JsValue.everyItem_iff.mp hdata.2 v hv,
    JsValue.everyItem_iff.mp hfinite.2 v hv⟩

theorem written_field {kind : ObjectKind} {field : Units × JsValue N}
    {fields : List (Units × JsValue N)} (h : Written (.object kind fields))
    (hfield : field ∈ fields) : Written field.2 := by
  obtain ⟨hordered, hdata, hfinite⟩ := h
  unfold JsValue.every at hdata hfinite
  rw [Bool.and_eq_true] at hdata hfinite
  exact ⟨JsValue.orderedFields_iff.mp hordered.2 field hfield,
    JsValue.everyField_iff.mp hdata.2 field hfield, JsValue.everyField_iff.mp hfinite.2 field hfield⟩

mutual

theorem readValue_stringify (hlaw : format.Lawful) (v : JsValue N) (h : Written v) (fuel : Nat)
    (hfuel : 2 * (stringify format v).length ≤ fuel) {rest : List Char} (hrest : Delimited rest) :
    readValue format fuel (stringify format v ++ rest) = some (v, rest) := by
  obtain ⟨c, s, hhead, hspace, -⟩ := stringify_head hlaw v
  obtain ⟨fuel, rfl⟩ : ∃ f, fuel = f + 1 := by
    rw [hhead, List.length_cons] at hfuel
    exact ⟨fuel - 1, by omega⟩
  match v with
  | .null => rfl
  | .bool false => rfl
  | .bool true => rfl
  | .nonFinite k => exact (Bool.false_ne_true h.2.2).elim
  | .hole => exact (Bool.false_ne_true h.2.1).elim
  | .other => exact (Bool.false_ne_true h.2.1).elim
  | .number n =>
    have hscan := scanNumber_append (hlaw.scanned n) hrest
    obtain ⟨c, s, heq, hc⟩ := scanNumber_head (hlaw.scanned n)
    have hvalue : numberOf format (format.toText n) = .number n := by
      unfold numberOf
      rw [hlaw.ofText_toText]
    have hne : ∀ d : Char, d ≠ '-' → d.isDigit = false → c ≠ d := by
      rintro d hd hdigit rfl
      rcases hc with rfl | hc
      · exact hd rfl
      · rw [hdigit] at hc
        cases hc
    rw [stringify]
    rw [heq, List.cons_append] at hscan ⊢
    rw [readValue, skipWhitespace_cons (isWhitespace_of_digit hc)]
    simp only
    rw [if_neg (hne _ (by decide) (by decide)), if_neg (hne _ (by decide) (by decide)),
      if_neg (hne _ (by decide) (by decide)), if_pos hc, hscan, ← heq]
    change some (numberOf format (format.toText n), rest) = _
    rw [hvalue]
  | .string us =>
    obtain ⟨s, hquote, hread⟩ := readUnits_quoteUnits us rest
    rw [stringify, hquote, readValue, skipWhitespace_cons (by decide)]
    simp only
    rw [if_pos trivial, hread]
    rfl
  | .array [] => rfl
  | .array (v :: items) =>
    obtain ⟨c, s, hv, hc, hclose⟩ := stringify_head hlaw v
    have hitems := readItems_stringify hlaw (v :: items) (List.cons_ne_nil v items)
      (fun w hw => written_item h hw) fuel (by
        rw [stringify, List.length_cons, List.length_append, List.length_singleton] at hfuel
        omega) rest
    have hskip : skipWhitespace (stringifyItems format true (v :: items) ++ ']' :: rest) =
        stringifyItems format true (v :: items) ++ ']' :: rest := by
      rw [stringifyItems, if_pos rfl, List.nil_append, hv]
      exact skipWhitespace_cons hc _
    rw [stringify, List.cons_append, List.append_assoc, List.singleton_append, readValue,
      skipWhitespace_cons (by decide)]
    simp only
    rw [if_neg (by decide), if_pos trivial, hskip]
    split
    · rename_i heq
      rw [stringifyItems, if_pos rfl, List.nil_append, hv] at heq
      exact absurd (List.cons.inj heq).1 hclose
    · rw [hitems]
      rfl
  | .object kind fields =>
    have hkind : kind = .plain := by
      have hdata := h.2.1
      rw [JsValue.every, Bool.and_eq_true] at hdata
      exact of_decide_eq_true hdata.1
    subst hkind
    match fields with
    | [] => rfl
    | field :: fields =>
      have hfields := readFields_stringify hlaw (field :: fields) (List.cons_ne_nil field fields)
        (fun f hf => written_field h hf) fuel (by
          rw [stringify, List.length_cons, List.length_append, List.length_singleton] at hfuel
          omega) [] h.1.1 rest
      obtain ⟨s, hquote, -⟩ := readUnits_quoteUnits field.1 (':' :: (stringify format field.2 ++
        stringifyFields format false fields) ++ '}' :: rest)
      have hstart : stringifyFields format true (field :: fields) ++ '}' :: rest = '"' :: s := by
        rw [stringifyFields, if_pos rfl, List.nil_append, ← hquote, List.append_assoc]
      rw [stringify, List.cons_append, List.append_assoc, List.singleton_append, readValue,
        skipWhitespace_cons (by decide)]
      simp only
      rw [if_neg (by decide), if_neg (by decide), if_pos trivial]
      rw [hstart] at hfields ⊢
      rw [skipWhitespace_cons (by decide)]
      split
      · rename_i heq
        exact absurd (List.cons.inj heq).1 (by decide)
      · rw [hfields]
        rfl

theorem readItems_stringify (hlaw : format.Lawful) (items : List (JsValue N)) (hne : items ≠ [])
    (h : ∀ v ∈ items, Written v) (fuel : Nat)
    (hfuel : 2 * (stringifyItems format true items).length + 1 ≤ fuel) (rest : List Char) :
    readItems format fuel (stringifyItems format true items ++ ']' :: rest) =
      some (items, rest) := by
  obtain ⟨fuel, rfl⟩ : ∃ f, fuel = f + 1 := ⟨fuel - 1, by omega⟩
  match items with
  | [] => exact absurd rfl hne
  | [v] =>
    have htext : stringifyItems format true [v] = stringify format v := by
      rw [stringifyItems, stringifyItems, List.append_nil]
      rfl
    rw [htext] at hfuel ⊢
    have hv := readValue_stringify hlaw v (h v List.mem_cons_self) fuel (by omega)
      (delimited_cons (.inr (.inl rfl)) rest)
    rw [readItems, hv]
    simp only
    rw [skipWhitespace_cons (by decide)]
    rfl
  | v :: w :: items =>
    rw [stringifyItems_tail, List.length_append, List.length_cons] at hfuel
    rw [stringifyItems_tail, List.append_assoc, List.cons_append]
    have hv := readValue_stringify hlaw v (h v List.mem_cons_self) fuel (by omega)
      (delimited_cons (.inl rfl) (stringifyItems format true (w :: items) ++ ']' :: rest))
    have hitems := readItems_stringify hlaw (w :: items) (List.cons_ne_nil w items)
      (fun u hu => h u (List.mem_cons_of_mem v hu)) fuel (by omega) rest
    rw [readItems, hv]
    simp only
    rw [skipWhitespace_cons (by decide)]
    simp only
    rw [hitems]
    rfl

theorem readFields_stringify (hlaw : format.Lawful) (fields : List (Units × JsValue N))
    (hne : fields ≠ []) (h : ∀ field ∈ fields, Written field.2) (fuel : Nat)
    (hfuel : 2 * (stringifyFields format true fields).length + 1 ≤ fuel)
    (acc : List (Units × JsValue N)) (hacc : ((acc ++ fields).map Prod.fst).Pairwise Follows)
    (rest : List Char) :
    readFields format fuel acc (stringifyFields format true fields ++ '}' :: rest) =
      some (acc ++ fields, rest) := by
  obtain ⟨fuel, rfl⟩ : ∃ f, fuel = f + 1 := ⟨fuel - 1, by omega⟩
  match fields with
  | [] => exact absurd rfl hne
  | (key, v) :: fields =>
    have hset : setField acc key v = acc ++ [(key, v)] := by
      apply setField_append
      intro field hfield
      rw [List.map_append, List.pairwise_append] at hacc
      exact hacc.2.2 _ (List.mem_map_of_mem hfield) _ List.mem_cons_self
    match fields with
    | [] =>
      have htext : stringifyFields format true [(key, v)] =
          quoteUnits key ++ (':' :: stringify format v) := by
        rw [stringifyFields, stringifyFields, List.append_nil]
        rfl
      rw [htext, List.length_append, List.length_cons] at hfuel
      have hv := readValue_stringify hlaw v (h (key, v) List.mem_cons_self) fuel
        (by omega) (delimited_cons (.inr (.inr rfl)) rest)
      obtain ⟨s, hquote, hread⟩ := readUnits_quoteUnits key
        (':' :: (stringify format v ++ '}' :: rest))
      rw [htext, List.append_assoc, List.cons_append, hquote, readFields,
        skipWhitespace_cons (by decide)]
      simp only
      rw [hread]
      simp only
      rw [skipWhitespace_cons (by decide)]
      simp only
      rw [hv]
      simp only
      rw [skipWhitespace_cons (by decide)]
      simp only
      rw [hset]
    | next :: fields =>
      have hlength : (stringifyFields format true ((key, v) :: next :: fields)).length =
          (quoteUnits key).length + ((stringify format v).length +
            ((stringifyFields format true (next :: fields)).length + 1) + 1) := by
        rw [stringifyFields_tail, List.length_append, List.length_cons, List.length_append,
          List.length_cons]
      have hv := readValue_stringify hlaw v (h (key, v) List.mem_cons_self) fuel (by omega)
        (delimited_cons (.inl rfl) (stringifyFields format true (next :: fields) ++ '}' :: rest))
      have hfields := readFields_stringify hlaw (next :: fields) (List.cons_ne_nil next fields)
        (fun field hfield => h field (List.mem_cons_of_mem (key, v) hfield)) fuel
        (by omega) (acc ++ [(key, v)]) (by rwa [List.append_assoc]) rest
      obtain ⟨s, hquote, hread⟩ := readUnits_quoteUnits key (':' :: (stringify format v ++
        (',' :: (stringifyFields format true (next :: fields) ++ '}' :: rest))))
      rw [stringifyFields_tail, List.append_assoc, List.cons_append, List.append_assoc,
        List.cons_append, hquote, readFields, skipWhitespace_cons (by decide)]
      simp only
      rw [hread]
      simp only
      rw [skipWhitespace_cons (by decide)]
      simp only
      rw [hv]
      simp only
      rw [skipWhitespace_cons (by decide)]
      simp only
      rw [hset, hfields, List.append_assoc]
      rfl

end

theorem parseJson_stringify (hlaw : format.Lawful) {v : JsValue N} (h : Written v) :
    parseJson format (stringify format v) = some v := by
  have hread := readValue_stringify hlaw v h (2 * (stringify format v).length + 2)
    (by omega) delimited_nil
  rw [List.append_nil] at hread
  unfold parseJson
  rw [hread]
  rfl

open App20.Domain (isDecimal decimalValue isDecimal_decimal decimalValue_decimal)

/-! ## Integers -/

def integerOf (s : List Char) : Option Int :=
  match s with
  | '-' :: digits => if isDecimal digits = true then some (-decimalValue digits) else none
  | digits => if isDecimal digits = true then some (decimalValue digits) else none

def integerFormat : NumberFormat Int where
  toText := decimal
  ofText := integerOf

theorem decimal_natCast (n : Nat) : decimal n = Nat.toDigits 10 n :=
  if_neg (Int.not_lt.mpr (Int.natCast_nonneg n))

theorem decimal_neg {n : Nat} (h : 0 < n) : decimal (-n) = '-' :: decimal n := by
  have hneg : -(n : Int) < 0 := by omega
  rw [decimal_natCast, decimal, if_pos hneg, Int.natAbs_neg]
  rfl

/-- An integer is a natural number or the negative of a positive one. -/
theorem int_cases (n : Int) : (∃ m : Nat, n = m) ∨ ∃ m : Nat, 0 < m ∧ n = -m := by
  by_cases h : 0 ≤ n
  · exact .inl ⟨n.toNat, by omega⟩
  · exact .inr ⟨n.natAbs, by omega, by omega⟩

theorem scanInt_toDigits (n : Nat) :
    scanInt (Nat.toDigits 10 n) = some (Nat.toDigits 10 n, []) := by
  by_cases hzero : n = 0
  · rw [hzero]
    rfl
  obtain ⟨c, cs, hcs, hlow, -, -⟩ := App20.Domain.leadingDigit_toDigits (Nat.pos_of_ne_zero hzero)
  have hall : ∀ d ∈ c :: cs, d.isDigit = true := fun d hd =>
    Nat.isDigit_of_mem_toDigits (b := 10) (n := n) (by omega) (by omega) (hcs ▸ hd)
  rw [hcs]
  unfold scanInt
  split
  · rename_i heq
    cases heq
  · rename_i heq
    rw [(List.cons.inj heq).1] at hlow
    exact absurd hlow (by decide)
  · rename_i d ds hne heq
    obtain ⟨rfl, rfl⟩ := List.cons.inj heq
    rw [if_pos (hall _ List.mem_cons_self), List.takeWhile_eq_self_iff.mpr hall,
      List.dropWhile_eq_nil_iff.mpr hall]

theorem scanUnsigned_toDigits (n : Nat) :
    scanUnsigned (Nat.toDigits 10 n) = some (Nat.toDigits 10 n, []) := by
  unfold scanUnsigned
  rw [scanInt_toDigits]
  simp [scanFraction, scanExponent]

theorem toDigits_unsigned (n : Nat) (s : List Char) : Nat.toDigits 10 n ≠ '-' :: s := by
  intro h
  have hdigit := Nat.isDigit_of_mem_toDigits (b := 10) (n := n) (c := '-') (by omega) (by omega)
    (h ▸ List.mem_cons_self)
  exact absurd hdigit (by decide)

theorem scanNumber_toDigits (n : Nat) :
    scanNumber (Nat.toDigits 10 n) = some (Nat.toDigits 10 n, []) := by
  unfold scanNumber
  split
  · rename_i heq
    exact absurd heq (toDigits_unsigned n _)
  · exact scanUnsigned_toDigits n

theorem integerOf_natCast (n : Nat) : integerOf (Nat.toDigits 10 n) = some (n : Int) := by
  have hnonneg : (0 : Int) ≤ n := Int.natCast_nonneg n
  have hvalue := decimalValue_decimal hnonneg
  have hdecimal := isDecimal_decimal hnonneg
  rw [decimal_natCast] at hvalue hdecimal
  unfold integerOf
  split
  · rename_i heq
    exact absurd heq (toDigits_unsigned n _)
  · rw [if_pos hdecimal, hvalue]

theorem integerFormat_lawful : integerFormat.Lawful where
  scanned := by
    intro n
    change scanNumber (decimal n) = some (decimal n, [])
    rcases int_cases n with ⟨m, rfl⟩ | ⟨m, hpos, rfl⟩
    · rw [decimal_natCast]
      exact scanNumber_toDigits m
    · rw [decimal_neg hpos, decimal_natCast]
      unfold scanNumber
      simp only [scanUnsigned_toDigits, Option.map_some]
  ofText_toText := by
    intro n
    change integerOf (decimal n) = some n
    rcases int_cases n with ⟨m, rfl⟩ | ⟨m, hpos, rfl⟩
    · rw [decimal_natCast]
      exact integerOf_natCast m
    · rw [decimal_neg hpos]
      unfold integerOf
      simp only
      rw [if_pos (isDecimal_decimal (Int.natCast_nonneg m)),
        decimalValue_decimal (Int.natCast_nonneg m)]

theorem stringify_injective {N : Type} {format : NumberFormat N} (hlaw : format.Lawful)
    {v w : JsValue N} (hv : Written v) (hw : Written w)
    (h : stringify format v = stringify format w) : v = w := by
  have hread := parseJson_stringify hlaw hv
  rw [h, parseJson_stringify hlaw hw] at hread
  exact (Option.some.inj hread).symm

end App20.Lib
