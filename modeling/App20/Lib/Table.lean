import App20.Lib.Exec
import Mathlib.Data.List.Nodup
import Mathlib.Algebra.Order.BigOperators.Group.List

/-!
# Tables with keys

A map whose entries carry their keys, in the order in which the keys were first put: what `Map`
is in JavaScript when a value is always put under its own key. No two entries have one key.
-/

namespace App20.Lib

/-- Entries with different keys. -/
structure Table {K α : Type} (key : α → K) where
  entries : List α
  nodup : (entries.map key).Nodup

namespace Table

variable {K α ε : Type} [DecidableEq K] {key : α → K}

def empty : Table key := ⟨[], List.nodup_nil⟩

def get? (t : Table key) (k : K) : Option α := t.entries.find? fun x => key x = k

/-- Put an entry in the place of the one with its key, or at the end. -/
def putEntries (key : α → K) (entries : List α) (x : α) : List α :=
  if key x ∈ entries.map key then entries.map fun y => if key y = key x then x else y
  else entries ++ [x]

theorem map_key_replace (entries : List α) (x : α) :
    (entries.map fun y => if key y = key x then x else y).map key = entries.map key := by
  rw [List.map_map]
  apply List.map_congr_left
  intro y _
  simp only [Function.comp_apply]
  split
  · rename_i h
    exact h.symm
  · rfl

theorem nodup_putEntries {entries : List α} (h : (entries.map key).Nodup) (x : α) :
    ((putEntries key entries x).map key).Nodup := by
  unfold putEntries
  split
  · rw [map_key_replace]
    exact h
  · rename_i hx
    rw [List.map_append, List.map_singleton]
    apply List.Nodup.append h (List.nodup_singleton _)
    rw [List.disjoint_singleton]
    exact hx

def put (t : Table key) (x : α) : Table key :=
  ⟨putEntries key t.entries x, nodup_putEntries t.nodup x⟩

def erase (t : Table key) (k : K) : Table key :=
  ⟨t.entries.filter fun x => key x ≠ k, t.nodup.sublist (List.filter_sublist.map key)⟩

/-! ## Reading -/

theorem mem_putEntries {entries : List α} {x y : α} :
    y ∈ putEntries key entries x ↔ y = x ∨ y ∈ entries ∧ key y ≠ key x := by
  unfold putEntries
  split
  · rename_i hx
    obtain ⟨z, hz, hkey⟩ := List.mem_map.mp hx
    rw [List.mem_map]
    constructor
    · rintro ⟨w, hw, rfl⟩
      split
      · exact Or.inl rfl
      · rename_i hne
        exact Or.inr ⟨hw, hne⟩
    · rintro (rfl | ⟨hy, hne⟩)
      · exact ⟨z, hz, if_pos hkey⟩
      · exact ⟨y, hy, if_neg hne⟩
  · rename_i hx
    rw [List.mem_append, List.mem_singleton]
    constructor
    · rintro (hy | rfl)
      · refine Or.inr ⟨hy, ?_⟩
        intro hkey
        exact hx (List.mem_map.mpr ⟨y, hy, hkey⟩)
      · exact Or.inl rfl
    · rintro (rfl | ⟨hy, -⟩)
      · exact Or.inr rfl
      · exact Or.inl hy

section

variable {t : Table key}

theorem mem_put {x y : α} :
    y ∈ (t.put x).entries ↔ y = x ∨ y ∈ t.entries ∧ key y ≠ key x := mem_putEntries

theorem mem_erase {k : K} {y : α} : y ∈ (t.erase k).entries ↔ y ∈ t.entries ∧ key y ≠ k := by
  simp [erase]

theorem get?_eq_some {k : K} {x : α} : t.get? k = some x ↔ x ∈ t.entries ∧ key x = k := by
  constructor
  · intro h
    have hkey := List.find?_some h
    exact ⟨List.mem_of_find?_eq_some h, of_decide_eq_true hkey⟩
  · rintro ⟨hx, rfl⟩
    unfold get?
    cases hfind : t.entries.find? fun y => key y = key x with
    | none =>
      have hne := List.find?_eq_none.mp hfind x hx
      simp at hne
    | some y =>
      have hy := List.mem_of_find?_eq_some hfind
      have hkey := List.find?_some hfind
      rw [List.inj_on_of_nodup_map t.nodup hy hx (of_decide_eq_true hkey)]

theorem get?_mem {x : α} (h : x ∈ t.entries) : t.get? (key x) = some x := get?_eq_some.mpr ⟨h, rfl⟩

theorem get?_put_self {x : α} : (t.put x).get? (key x) = some x :=
  get?_eq_some.mpr ⟨mem_put.mpr (Or.inl rfl), rfl⟩

theorem get?_put_of_ne {x : α} {k : K} (h : k ≠ key x) : (t.put x).get? k = t.get? k := by
  apply Option.ext
  intro y
  rw [get?_eq_some, get?_eq_some, mem_put]
  constructor
  · rintro ⟨rfl | ⟨hy, -⟩, hkey⟩
    · exact absurd hkey.symm h
    · exact ⟨hy, hkey⟩
  · rintro ⟨hy, rfl⟩
    exact ⟨Or.inr ⟨hy, h⟩, rfl⟩

theorem get?_put_eq_some {x y : α} {k : K} :
    (t.put x).get? k = some y ↔ y = x ∧ key x = k ∨ t.get? k = some y ∧ key x ≠ k := by
  by_cases hk : key x = k
  · subst hk
    simp [get?_put_self, eq_comm]
  · simp [get?_put_of_ne (Ne.symm hk), hk]

theorem entries_put_of_new {x : α} (h : t.get? (key x) = none) :
    (t.put x).entries = t.entries ++ [x] := by
  have hx : key x ∉ t.entries.map key := by
    intro hmem
    obtain ⟨y, hy, hkey⟩ := List.mem_map.mp hmem
    rw [get?_eq_some.mpr ⟨hy, hkey⟩] at h
    cases h
  simp [put, putEntries, hx]

end

/-- What is read does not depend on the order of the entries. -/
theorem get?_perm {t t' : Table key} (h : t.entries.Perm t'.entries) (k : K) :
    t.get? k = t'.get? k := by
  apply Option.ext
  intro y
  rw [get?_eq_some, get?_eq_some, h.mem_iff]

omit [DecidableEq K] in
/-- A fold that adds every value to a table of its state. -/
theorem entries_foldlM {σ : Type} {p : σ → Table key} {f : σ → α → Except ε σ}
    (hf : ∀ s x s', f s x = .ok s' → (p s').entries = (p s).entries ++ [x]) {xs : List α} {s s' : σ}
    (h : xs.foldlM f s = .ok s') : (p s').entries = (p s).entries ++ xs := by
  induction xs generalizing s with
  | nil =>
    cases h
    exact (List.append_nil _).symm
  | cons x xs ih =>
    rw [List.foldlM_cons, bind_ok] at h
    obtain ⟨t, ht, h⟩ := h
    rw [ih h, hf s x t ht, List.append_assoc, List.singleton_append]

omit [DecidableEq K] in
theorem ext_entries {t t' : Table key} (h : t.entries = t'.entries) : t = t' := by
  cases t
  cases t'
  cases h
  rfl

/-- Putting an entry that is there changes nothing. -/
theorem put_eq_self {t : Table key} {x : α} (h : x ∈ t.entries) : t.put x = t := by
  apply ext_entries
  have hkey : key x ∈ t.entries.map key := List.mem_map.mpr ⟨x, h, rfl⟩
  simp only [put, putEntries, if_pos hkey]
  conv_rhs => rw [← List.map_id t.entries]
  apply List.map_congr_left
  intro y hy
  split
  · rename_i heq
    exact List.inj_on_of_nodup_map t.nodup h hy heq.symm
  · rfl

/-- The second of two entries with one key takes the place of the first. -/
theorem put_put {t : Table key} {x y : α} (h : key y = key x) : (t.put x).put y = t.put y := by
  apply ext_entries
  by_cases hx : key x ∈ t.entries.map key
  · have hmap : (t.entries.map fun z => if key z = key x then x else z).map key =
        t.entries.map key := map_key_replace t.entries x
    simp only [put, putEntries, h, hx, hmap, if_true, List.map_map]
    apply List.map_congr_left
    intro z _
    by_cases hz : key z = key x <;> simp [hz]
  · have hmem : key x ∈ t.entries.map key ++ [key x] := by simp
    have hid : (t.entries.map fun z => if key z = key x then y else z) = t.entries := by
      conv_rhs => rw [← List.map_id t.entries]
      apply List.map_congr_left
      intro z hz
      exact if_neg fun hkey => hx (List.mem_map.mpr ⟨z, hz, hkey⟩)
    simp only [put, putEntries, h, hx, if_false, List.map_append, List.map_singleton]
    rw [if_pos hmem, hid, if_pos trivial]

/-! ## Totals -/

def total (f : α → Int) (t : Table key) : Int := (t.entries.map f).sum

omit [DecidableEq K] in
omit [DecidableEq K] in
theorem total_le {f g : α → Int} {t : Table key} (h : ∀ x ∈ t.entries, f x ≤ g x) :
    t.total f ≤ t.total g := List.sum_le_sum h

theorem total_put_of_new {f : α → Int} {t : Table key} {x : α} (h : t.get? (key x) = none) :
    (t.put x).total f = t.total f + f x := by
  simp [total, entries_put_of_new h]

/-- What is put in the place of another entry adds no more than itself. -/
theorem total_put_le {f : α → Int} {t : Table key} {x : α} (h : ∀ y ∈ t.entries, 0 ≤ f y) :
    (t.put x).total f ≤ t.total f + f x := by
  have hreplace : ∀ entries : List α, (entries.map key).Nodup → (∀ y ∈ entries, 0 ≤ f y) →
      key x ∈ entries.map key → ((entries.map fun y => if key y = key x then x else y).map f).sum ≤
        (entries.map f).sum + f x := by
    intro entries
    induction entries with
    | nil =>
      intro _ _ hmem
      cases hmem
    | cons y ys ih =>
      intro hnodup hnonneg hmem
      obtain ⟨hnotin, hnodup⟩ := List.nodup_cons.mp hnodup
      obtain ⟨hy0, hys0⟩ := List.forall_mem_cons.mp hnonneg
      rw [List.map_cons, List.map_cons, List.map_cons, List.sum_cons, List.sum_cons]
      by_cases hy : key y = key x
      · -- the other entries have other keys
        have hrest : (ys.map fun z => if key z = key x then x else z) = ys := by
          conv_rhs => rw [← List.map_id ys]
          apply List.map_congr_left
          intro z hz
          refine if_neg fun hkey => hnotin (List.mem_map.mpr ⟨z, hz, ?_⟩)
          rw [hkey, hy]
        rw [if_pos hy, hrest]
        omega
      · rw [List.map_cons, List.mem_cons] at hmem
        have hmem := hmem.resolve_left fun hkey => hy hkey.symm
        have hle := ih hnodup hys0 hmem
        rw [if_neg hy]
        omega
  by_cases hmem : key x ∈ t.entries.map key
  · simp only [total, put, putEntries, if_pos hmem]
    exact hreplace t.entries t.nodup h hmem
  · simp [total, put, putEntries, hmem]

/-! ## Changing every entry -/

/-- Put the new version of every entry, in order. -/
def mapM (f : α → Except ε α) (t : Table key) : Except ε (Table key) :=
  t.entries.foldlM (fun t x => do return t.put (← f x)) t

section

variable {f : α → Except ε α}

/-- Every entry is replaced by its new version, if that keeps the key. -/
theorem mapM_ok (hkey : ∀ x y, f x = .ok y → key y = key x) {t t' : Table key}
    (h : t.mapM f = .ok t') (k : K) :
    (t.get? k = none → t'.get? k = none) ∧
      ∀ x, t.get? k = some x → ∃ y, f x = .ok y ∧ t'.get? k = some y := by
  -- the entries still to come are those of the table before
  have hfold : ∀ (xs : List α) (u u' : Table key), (xs.map key).Nodup →
      xs.foldlM (fun t x => do return t.put (← f x)) u = .ok u' →
      (k ∉ xs.map key → u'.get? k = u.get? k) ∧
        ∀ x ∈ xs, key x = k → ∃ y, f x = .ok y ∧ u'.get? k = some y := by
    intro xs
    induction xs with
    | nil =>
      intro u u' _ hu
      cases hu
      exact ⟨fun _ => rfl, fun x hx => by cases hx⟩
    | cons x xs ih =>
      intro u u' hnodup hu
      obtain ⟨hnotin, hnodup⟩ := List.nodup_cons.mp hnodup
      rw [List.foldlM_cons] at hu
      cases hx : f x with
      | error e =>
        rw [hx] at hu
        cases hu
      | ok y =>
        rw [hx] at hu
        have hyk := hkey x y hx
        obtain ⟨hother, hmine⟩ := ih (u.put y) u' hnodup hu
        constructor
        · intro hk
          rw [List.map_cons, List.mem_cons, not_or] at hk
          rw [hother hk.2, get?_put_of_ne (by rw [hyk]; exact hk.1)]
        · intro z hz hzk
          rcases List.mem_cons.mp hz with rfl | hz
          · refine ⟨y, hx, ?_⟩
            rw [hother (hzk ▸ hnotin), ← hzk, ← hyk]
            exact get?_put_self
          · exact hmine z hz hzk
  obtain ⟨hother, hmine⟩ := hfold t.entries t t' t.nodup h
  constructor
  · intro hnone
    rw [hother, hnone]
    intro hmem
    obtain ⟨x, hx, hxk⟩ := List.mem_map.mp hmem
    rw [get?_eq_some.mpr ⟨hx, hxk⟩] at hnone
    cases hnone
  · intro x hx
    obtain ⟨hmem, hxk⟩ := get?_eq_some.mp hx
    exact hmine x hmem hxk

/-- What holds of a table and is kept by every new version that is put holds of the new table. -/
theorem mapM_invariant (hkey : ∀ x y, f x = .ok y → key y = key x) {I : Table key → Prop}
    (hstep : ∀ u x y, u.get? (key x) = some x → f x = .ok y → I u → I (u.put y)) {t t' : Table key}
    (h : t.mapM f = .ok t') (hI : I t) : I t' := by
  -- the entries still to come are still there
  have hfold : ∀ (xs : List α) (u : Table key), (xs.map key).Nodup →
      (∀ x ∈ xs, u.get? (key x) = some x) → I u →
      xs.foldlM (fun t x => do return t.put (← f x)) u = .ok t' → I t' := by
    intro xs
    induction xs with
    | nil =>
      intro u _ _ hu hfold
      cases hfold
      exact hu
    | cons x xs ih =>
      intro u hnodup hthere hu hfold
      obtain ⟨hnotin, hnodup⟩ := List.nodup_cons.mp hnodup
      obtain ⟨hx, hxs⟩ := List.forall_mem_cons.mp hthere
      rw [List.foldlM_cons] at hfold
      cases hy : f x with
      | error e =>
        rw [hy] at hfold
        cases hfold
      | ok y =>
        rw [hy] at hfold
        refine ih (u.put y) hnodup (fun z hz => ?_) (hstep u x y hx hy hu) hfold
        have hne : key z ≠ key x := fun heq => hnotin (List.mem_map.mpr ⟨z, hz, heq⟩)
        rw [get?_put_of_ne (by rw [hkey x y hy]; exact hne)]
        exact hxs z hz
  exact hfold t.entries t t.nodup (fun x hx => get?_mem hx) hI h

/-- Every entry has a new version exactly when all of them do. -/
theorem mapM_isOk {t : Table key} :
    (∃ t', t.mapM f = .ok t') ↔ ∀ x ∈ t.entries, ∃ y, f x = .ok y := by
  have hfold : ∀ (xs : List α) (u : Table key),
      (∃ u', xs.foldlM (fun t x => do return t.put (← f x)) u = .ok u') ↔
        ∀ x ∈ xs, ∃ y, f x = .ok y := by
    intro xs
    induction xs with
    | nil => exact fun u => ⟨fun _ x hx => (by cases hx), fun _ => ⟨u, rfl⟩⟩
    | cons x xs ih =>
      intro u
      rw [List.foldlM_cons, List.forall_mem_cons]
      cases hx : f x with
      | error e => exact ⟨fun ⟨_, h⟩ => (by cases h), fun ⟨⟨_, h⟩, _⟩ => (by cases h)⟩
      | ok y => exact (ih (u.put y)).trans ⟨fun h => ⟨⟨y, rfl⟩, h⟩, fun h => h.2⟩
  exact hfold t.entries t

theorem mapM_put {t t' : Table key} {x y : α} (h : t.mapM f = .ok t') (hx : f x = .ok y) :
    ∃ t'', (t.put x).mapM f = .ok t'' := by
  refine mapM_isOk.mpr fun z hz => ?_
  rcases mem_put.mp hz with rfl | ⟨hz, -⟩
  · exact ⟨y, hx⟩
  · exact mapM_isOk.mp ⟨t', h⟩ z hz

theorem mapM_eq_self {t : Table key} (h : ∀ x ∈ t.entries, f x = .ok x) : t.mapM f = .ok t := by
  have hfold : ∀ xs : List α, xs ⊆ t.entries →
      xs.foldlM (fun t x => do return t.put (← f x)) t = .ok t := by
    intro xs
    induction xs with
    | nil => intro _; rfl
    | cons x xs ih =>
      intro hsub
      obtain ⟨hx, hxs⟩ := List.cons_subset.mp hsub
      rw [List.foldlM_cons, h x hx, ok_bind]
      simp only [put_eq_self hx]
      exact ih hxs
  exact hfold t.entries (List.Subset.refl _)

/-- Every entry of the new table is the new version of an entry. -/
theorem mapM_mem (hkey : ∀ x y, f x = .ok y → key y = key x) {t t' : Table key}
    (h : t.mapM f = .ok t') {y : α} (hy : y ∈ t'.entries) : ∃ x ∈ t.entries, f x = .ok y := by
  obtain ⟨hnone, hsome⟩ := mapM_ok hkey h (key y)
  have hget := get?_mem hy
  cases hx : t.get? (key y) with
  | none =>
    rw [hnone hx] at hget
    cases hget
  | some x =>
    obtain ⟨z, hz, hget'⟩ := hsome x hx
    rw [hget] at hget'
    cases hget'
    exact ⟨x, (get?_eq_some.mp hx).1, hz⟩

end

end Table

end App20.Lib
