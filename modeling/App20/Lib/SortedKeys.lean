import Mathlib.Algebra.BigOperators.Group.List.Basic
import Mathlib.Algebra.Order.Ring.Int
import Mathlib.Data.List.Pairwise

/-!
# Sorted keys

An array of keys in increasing order: the binary search of the first key that is not below a bound,
a key put in where the search ends, and the keys between two bounds. Entries are added up key by key.

* `lowerBound_eq`: the search ends behind the keys below the bound.
* `between_eq`: what stands between two searches are the keys between the bounds.
* `sum_by_key`: totals of entries, added up over their keys.
-/

namespace App20.Lib

/-! ## The search -/

section

variable {κ : Type} [LinearOrder κ]

/-- The search between `low` and `high`, for as many rounds as there may be. -/
def lowerBoundLoop (keys : List κ) (bound : κ) : Nat → Nat → Nat → Nat
  | 0, low, _ => low
  | rounds + 1, low, high =>
    if low < high then
      let middle := low + (high - low) / 2
      if keys[middle]?.any (· < bound) = true then lowerBoundLoop keys bound rounds (middle + 1) high
      else lowerBoundLoop keys bound rounds low middle
    else low

def lowerBound (keys : List κ) (bound : κ) : Nat :=
  lowerBoundLoop keys bound keys.length 0 keys.length

/-- The key, put in before the first one that is not below it. -/
def insertKey (keys : List κ) (key : κ) : List κ :=
  keys.take (lowerBound keys key) ++ key :: keys.drop (lowerBound keys key)

/-- The keys from `low` on that are below `high`. -/
def between (keys : List κ) (low high : κ) : List κ :=
  (keys.take (lowerBound keys high)).drop (lowerBound keys low)

variable {keys : List κ} {bound key low high : κ}

/-- In a sorted list the keys below a bound come first. -/
theorem take_countP (bound : κ) (h : keys.Pairwise (· ≤ ·)) :
    keys.take (keys.countP (· < bound)) = keys.filter (· < bound) ∧
      keys.drop (keys.countP (· < bound)) = keys.filter (bound ≤ ·) := by
  induction keys with
  | nil => exact ⟨rfl, rfl⟩
  | cons k ks ih =>
    obtain ⟨hk, hks⟩ := List.pairwise_cons.mp h
    by_cases hlt : k < bound
    · obtain ⟨htake, hdrop⟩ := ih hks
      rw [List.countP_cons_of_pos (by simpa using hlt), List.take_succ_cons, List.drop_succ_cons,
        List.filter_cons_of_pos (by simpa using hlt),
        List.filter_cons_of_neg (by simpa using hlt), htake, hdrop]
      exact ⟨rfl, rfl⟩
    · have hle : ∀ x ∈ k :: ks, bound ≤ x := by
        intro x hx
        rcases List.mem_cons.mp hx with rfl | hx
        · exact not_lt.mp hlt
        · exact (not_lt.mp hlt).trans (hk x hx)
      have hnone : (k :: ks).filter (· < bound) = [] := by
        rw [List.filter_eq_nil_iff]
        intro x hx
        simpa using hle x hx
      have hall : (k :: ks).filter (bound ≤ ·) = k :: ks := by
        rw [List.filter_eq_self]
        intro x hx
        simpa using hle x hx
      have hcount : (k :: ks).countP (· < bound) = 0 := by
        rw [List.countP_eq_length_filter, hnone, List.length_nil]
      rw [hcount, hnone, hall]
      exact ⟨rfl, rfl⟩

theorem lt_countP_iff (bound : κ) (h : keys.Pairwise (· ≤ ·)) {i : Nat} (hi : i < keys.length) :
    keys[i]?.any (· < bound) = true ↔ i < keys.countP (· < bound) := by
  obtain ⟨htake, hdrop⟩ := take_countP bound h
  rw [List.getElem?_eq_getElem hi, Option.any_some, decide_eq_true_eq]
  constructor
  · intro hlt
    by_contra hge
    have hmem : keys[i] ∈ keys.drop (keys.countP (· < bound)) := by
      rw [List.mem_drop_iff_getElem]
      exact ⟨i - keys.countP (· < bound), by omega, by congr 1; omega⟩
    rw [hdrop, List.mem_filter, decide_eq_true_eq] at hmem
    exact absurd hlt (not_lt.mpr hmem.2)
  · intro hlt
    have hmem : keys[i] ∈ keys.take (keys.countP (· < bound)) := by
      rw [List.mem_take_iff_getElem]
      exact ⟨i, by omega, rfl⟩
    rw [htake, List.mem_filter, decide_eq_true_eq] at hmem
    exact hmem.2

section

variable (h : keys.Pairwise (· ≤ ·))

include h

/-- The bounds of the search stay around the end of the keys below. -/
theorem lowerBoundLoop_eq {rounds low high : Nat} (hrounds : high - low ≤ rounds)
    (hhigh : high ≤ keys.length) (hlow : low ≤ keys.countP (· < bound))
    (hcount : keys.countP (· < bound) ≤ high) :
    lowerBoundLoop keys bound rounds low high = keys.countP (· < bound) := by
  induction rounds generalizing low high with
  | zero =>
    unfold lowerBoundLoop
    omega
  | succ rounds ih =>
    unfold lowerBoundLoop
    dsimp only
    split
    · rename_i hlt
      have hmiddle := lt_countP_iff bound h (i := low + (high - low) / 2) (by omega)
      split
      · rename_i hbelow
        have := hmiddle.mp hbelow
        exact ih (by omega) hhigh (by omega) hcount
      · rename_i hnot
        have := mt hmiddle.mpr hnot
        exact ih (by omega) (by omega) hlow (by omega)
    · omega

theorem lowerBound_eq (bound : κ) : lowerBound keys bound = keys.countP (· < bound) :=
  lowerBoundLoop_eq h (Nat.sub_le _ _) (Nat.le_refl _) (Nat.zero_le _) List.countP_le_length

/-! ## Insertion -/

theorem insertKey_eq :
    insertKey keys key = keys.filter (· < key) ++ key :: keys.filter (key ≤ ·) := by
  obtain ⟨htake, hdrop⟩ := take_countP key h
  unfold insertKey
  rw [lowerBound_eq h, htake, hdrop]

theorem mem_insertKey {k : κ} : k ∈ insertKey keys key ↔ k = key ∨ k ∈ keys := by
  rw [insertKey_eq h, List.mem_append, List.mem_cons, List.mem_filter, List.mem_filter]
  simp only [decide_eq_true_eq]
  constructor
  · rintro (⟨hk, -⟩ | rfl | ⟨hk, -⟩)
    · exact .inr hk
    · exact .inl rfl
    · exact .inr hk
  · rintro (rfl | hk)
    · exact .inr (.inl rfl)
    · rcases lt_or_ge k key with hlt | hge
      · exact .inl ⟨hk, hlt⟩
      · exact .inr (.inr ⟨hk, hge⟩)

end

/-- A new key keeps the keys in strictly increasing order. -/
theorem pairwise_insertKey (h : keys.Pairwise (· < ·)) (hkey : key ∉ keys) :
    (insertKey keys key).Pairwise (· < ·) := by
  rw [insertKey_eq (h.imp le_of_lt), List.pairwise_append, List.pairwise_cons]
  refine ⟨h.filter _, ⟨fun k hk => ?_, h.filter _⟩, fun k hk k' hk' => ?_⟩
  · rw [List.mem_filter, decide_eq_true_eq] at hk
    exact lt_of_le_of_ne hk.2 fun heq => hkey (heq ▸ hk.1)
  · rw [List.mem_filter, decide_eq_true_eq] at hk
    rcases List.mem_cons.mp hk' with rfl | hk'
    · exact hk.2
    · rw [List.mem_filter, decide_eq_true_eq] at hk'
      exact hk.2.trans_le hk'.2

/-! ## Between two bounds -/

theorem between_eq (h : keys.Pairwise (· ≤ ·)) (hle : low ≤ high) :
    between keys low high = keys.filter fun k => decide (low ≤ k) && decide (k < high) := by
  obtain ⟨htake, -⟩ := take_countP high h
  have hsorted : (keys.filter (· < high)).Pairwise (· ≤ ·) := h.filter _
  obtain ⟨-, hdrop⟩ := take_countP low hsorted
  have hcount : (keys.filter (· < high)).countP (· < low) = keys.countP (· < low) := by
    rw [List.countP_filter]
    apply List.countP_congr
    intro k _
    simp only [Bool.and_eq_true, decide_eq_true_eq]
    exact and_iff_left_of_imp fun hlt => hlt.trans_le hle
  unfold between
  rw [lowerBound_eq h, lowerBound_eq h, htake, ← hcount, hdrop, List.filter_filter]

end

/-! ## Totals -/

section

variable {κ α : Type} [DecidableEq κ] {key : α → κ} {value : α → Int}

theorem sum_single {keys : List κ} (hnodup : keys.Nodup) (key : κ) (value : Int) :
    (keys.map fun k => if k = key then value else 0).sum = if key ∈ keys then value else 0 := by
  induction keys with
  | nil => rfl
  | cons k ks ih =>
    obtain ⟨hk, hks⟩ := List.nodup_cons.mp hnodup
    rw [List.map_cons, List.sum_cons, ih hks]
    by_cases heq : k = key
    · rw [if_pos heq, if_neg (heq ▸ hk), if_pos (heq ▸ List.mem_cons_self), add_zero]
    · rw [if_neg heq, zero_add]
      simp only [List.mem_cons, Ne.symm heq, false_or]

theorem sum_by_key {keys : List κ} (hnodup : keys.Nodup) (entries : List α) :
    (keys.map fun k => ((entries.filter fun e => key e = k).map value).sum).sum =
      ((entries.filter fun e => key e ∈ keys).map value).sum := by
  induction entries with
  | nil => simp
  | cons e es ih =>
    have hone := sum_single hnodup (key e) (value e)
    have hsplit : ∀ k, (((e :: es).filter fun e => key e = k).map value).sum =
        (if k = key e then value e else 0) + ((es.filter fun e => key e = k).map value).sum := by
      intro k
      rw [List.filter_cons]
      split
      · rename_i hk
        rw [List.map_cons, List.sum_cons, if_pos (of_decide_eq_true hk).symm]
      · rename_i hk
        rw [if_neg fun heq => hk (decide_eq_true heq.symm), zero_add]
    simp only [hsplit]
    rw [List.sum_map_add, hone, ih, List.filter_cons]
    split
    · rename_i hmem
      rw [if_pos (by simpa using hmem), List.map_cons, List.sum_cons]
    · rename_i hmem
      rw [if_neg (by simpa using hmem), zero_add]

end

end App20.Lib
