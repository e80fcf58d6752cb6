import App20.Domain.Felt
import App20.Lib.Exec

/-!
# JSON values

The bodies of requests and the stored records, as `jsonParse` of the reservation ledger gives
them: a tagged bigint is read as a bigint. A field that is missing and a field that is
`undefined` are the same here, since text carries no `undefined`.
-/

namespace App20.Domain

open App20.Lib

inductive Json where
  | null
  | bool (b : Bool)
  | number (n : Int)
  /-- A number that is not an integer. -/
  | fraction
  | bigint (n : Int)
  | string (s : Text)
  | array (xs : List Json)
  | object (fields : List (String × Json))

namespace Json

/-- `value.field`; `none` is `undefined`. -/
def get? (value : Json) (field : String) : Option Json :=
  match value with
  | object fields => fields.lookup field
  | _ => none

/-- `Object.keys` -/
def keys (value : Json) : List String :=
  match value with
  | object fields => fields.map Prod.fst
  | _ => []

/-- The fields of an object literal that are there only when they are defined. -/
def optional (field : String) (value : Option Json) : List (String × Json) :=
  value.toList.map fun x => (field, x)

variable {field : String} {value : Option Json}

theorem lookup_optional_append {key : String} {rest : List (String × Json)} :
    (optional field value ++ rest).lookup key =
      if key = field then value.or (rest.lookup key) else rest.lookup key := by
  cases value with
  | none => simp [optional]
  | some x =>
    simp only [optional, Option.toList_some, List.map_cons, List.map_nil, List.cons_append,
      List.nil_append, List.lookup_cons, Option.some_or]
    by_cases h : key = field
    · simp [h]
    · simp [h, beq_false_of_ne h]

theorem lookup_optional {key : String} :
    (optional field value).lookup key = if key = field then value else none := by
  rw [← List.append_nil (optional field value), lookup_optional_append, List.lookup_nil,
    Option.or_none]

theorem map_fst_optional_subset {names : List String} (h : field ∈ names) :
    (optional field value).map Prod.fst ⊆ names := by
  cases value with
  | none => simp [optional]
  | some x => simpa [optional] using h

end Json

/-! ## Letter case -/

/-- `toLowerCase`. Only the letters of ASCII are lowered: what else it changes never makes a text
match one of the patterns below. -/
def toLowerCase (s : Text) : Text := s.map Char.toLower

/-! ## Hexadecimal words -/

def isLowerHexDigit (c : Char) : Bool :=
  let n := c.toNat
  decide ((48 ≤ n ∧ n ≤ 57) ∨ (97 ≤ n ∧ n ≤ 102))

/-- `/^0x[0-9a-f]{64}$/` -/
def isHex32 (s : Text) : Bool :=
  match s with
  | '0' :: 'x' :: ds => decide (ds.length = 64) && ds.all isLowerHexDigit
  | _ => false

/-- `/^0x[0-9a-fA-F]{64}$/` -/
def isDigest (s : Text) : Bool :=
  match s with
  | '0' :: 'x' :: ds => decide (ds.length = 64) && ds.all isHexDigit
  | _ => false

variable {s : Text} {c : Char}

theorem isHex32_cases (h : isHex32 s = true) :
    ∃ ds, s = '0' :: 'x' :: ds ∧ ds.length = 64 ∧ ∀ c ∈ ds, isLowerHexDigit c = true := by
  unfold isHex32 at h
  split at h
  · rename_i ds
    rw [Bool.and_eq_true, decide_eq_true_eq, List.all_eq_true] at h
    exact ⟨ds, rfl, h.1, h.2⟩
  · cases h

theorem isHexDigit_of_lower (h : isLowerHexDigit c = true) : isHexDigit c = true := by
  unfold isLowerHexDigit at h
  unfold isHexDigit
  have hc := of_decide_eq_true h
  apply decide_eq_true
  omega

theorem toLower_of_isLowerHexDigit (h : isLowerHexDigit c = true) :
    c.toLower = c := by
  unfold isLowerHexDigit at h
  have hc := of_decide_eq_true h
  unfold Char.toLower
  rw [dif_neg]
  intro hupper
  have h1 : 65 ≤ c.toNat := hupper.1
  have h2 : c.toNat ≤ 90 := hupper.2
  omega

theorem toLowerCase_hex (n : Nat) : toLowerCase (hex n) = hex n := by
  have hdigit : ∀ d : Fin 16, isLowerHexDigit d.val.digitChar = true := by decide
  unfold toLowerCase
  conv_rhs => rw [← List.map_id (hex n)]
  apply List.map_congr_left
  intro c hc
  simp only [hex, List.mem_cons] at hc
  rcases hc with rfl | rfl | hc
  · rfl
  · rfl
  · obtain ⟨d, hd, rfl⟩ := mem_toDigits c hc
    exact toLower_of_isLowerHexDigit (hdigit ⟨d, hd⟩)

/-- Lowering a letter moves it out of the upper case and keeps what is no letter. -/
theorem toLower_cases (c : Char) :
    (65 ≤ c.toNat ∧ c.toNat ≤ 90 ∧ c.toLower.toNat = c.toNat + 32) ∨
      (¬ (65 ≤ c.toNat ∧ c.toNat ≤ 90) ∧ c.toLower = c) := by
  unfold Char.toLower
  split
  · rename_i h
    have h1 : 65 ≤ c.toNat := h.1
    have h2 : c.toNat ≤ 90 := h.2
    refine Or.inl ⟨h1, h2, ?_⟩
    change (c.val + ('a'.val - 'A'.val)).toNat = c.val.toNat + 32
    have hval : c.val.toNat = c.toNat := rfl
    rw [UInt32.toNat_add]
    simp
    omega
  · rename_i h
    exact Or.inr ⟨fun hu => h ⟨hu.1, hu.2⟩, rfl⟩

/-- A canonical 32-byte word is its own normal form. -/
theorem normal_of_isHex32 (h : isHex32 s = true) :
    trim s = s ∧ toLowerCase s = s ∧ isDigest s = true := by
  obtain ⟨ds, rfl, hlength, hdigits⟩ := isHex32_cases h
  refine ⟨?_, ?_, ?_⟩
  · apply trim_eq_self
    apply Trimmed.of_forall
    intro c hc
    rcases List.mem_cons.mp hc with rfl | hc
    · rfl
    · rcases List.mem_cons.mp hc with rfl | hc
      · rfl
      · exact isSpace_of_isHexDigit (isHexDigit_of_lower (hdigits c hc))
  · have hds : ds.map Char.toLower = ds := by
      conv_rhs => rw [← List.map_id ds]
      exact List.map_congr_left fun c hc => toLower_of_isLowerHexDigit (hdigits c hc)
    simp only [toLowerCase, List.map_cons, hds]
    rfl
  · have hall : ds.all isHexDigit = true :=
      List.all_eq_true.mpr fun c hc => isHexDigit_of_lower (hdigits c hc)
    simp [isDigest, hlength, hall]

theorem toLower_toLower (c : Char) : c.toLower.toLower = c.toLower := by
  rcases toLower_cases c with ⟨h1, h2, hlower⟩ | ⟨-, hlower⟩
  · rcases toLower_cases c.toLower with ⟨h3, h4, -⟩ | ⟨-, heq⟩
    · omega
    · exact heq
  · rw [hlower, hlower]

theorem isSpace_toLower (c : Char) (h : isSpace c = false) : isSpace c.toLower = false := by
  rcases toLower_cases c with ⟨h1, h2, hlower⟩ | ⟨-, hlower⟩
  · unfold isSpace
    apply decide_eq_false
    omega
  · rw [hlower]
    exact h

theorem isLowerHexDigit_toLower (h : isHexDigit c.toLower = true) :
    isLowerHexDigit c.toLower = true := by
  unfold isHexDigit at h
  have hc := of_decide_eq_true h
  unfold isLowerHexDigit
  apply decide_eq_true
  rcases toLower_cases c with ⟨h1, h2, hlower⟩ | ⟨hno, hlower⟩
  · omega
  · rw [hlower] at hc ⊢
    omega

/-- What is lowered and matches the pattern of a digest is a canonical 32-byte word. -/
theorem isHex32_toLowerCase (h : isDigest (toLowerCase s) = true) :
    isHex32 (toLowerCase s) = true := by
  unfold isDigest at h
  split at h
  · rename_i ds heq
    rw [Bool.and_eq_true, decide_eq_true_eq, List.all_eq_true] at h
    have hdigits : ∀ c ∈ ds, isLowerHexDigit c = true := by
      intro c hc
      have hmem : c ∈ toLowerCase s := by
        rw [heq]
        exact List.mem_cons_of_mem _ (List.mem_cons_of_mem _ hc)
      obtain ⟨d, -, rfl⟩ := List.mem_map.mp hmem
      exact isLowerHexDigit_toLower (h.2 _ hc)
    rw [heq]
    simp [isHex32, h.1, List.all_eq_true.mpr hdigits]
  · cases h

theorem toLowerCase_toLowerCase (s : Text) : toLowerCase (toLowerCase s) = toLowerCase s := by
  unfold toLowerCase
  rw [List.map_map]
  exact List.map_congr_left fun c _ => toLower_toLower c

theorem Trimmed.toLowerCase (h : Trimmed s) : Trimmed (toLowerCase s) := by
  refine ⟨?_, ?_⟩
  · intro c hc
    simp only [Domain.toLowerCase, List.head?_map, Option.mem_def, Option.map_eq_some_iff] at hc
    obtain ⟨d, hd, rfl⟩ := hc
    exact isSpace_toLower d (h.head d hd)
  · intro c hc
    simp only [Domain.toLowerCase, List.getLast?_map, Option.mem_def, Option.map_eq_some_iff] at hc
    obtain ⟨d, hd, rfl⟩ := hc
    exact isSpace_toLower d (h.last d hd)

end App20.Domain
