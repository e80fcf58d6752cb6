import Mathlib.Tactic.Common

/-!
# Attempts at a task

A task is tried by one attempt after the other. An attempt is reserved, may be submitted under a
hash, and may end: it is released, or what was submitted is reverted. A new attempt is safe when
every earlier one was released before it was submitted, or was reverted under its own hash.

* `Tracks`: the attempts, as the phase of the task tells them.
* `Tracks.at_most_one`: at most one attempt is outstanding.
-/

namespace App20.Lib

variable {K H : Type}

/-! ## What happens to attempts -/

inductive Ending (H : Type) where
  | released
  | reverted (hash : H)

structure Attempt (K H : Type) where
  id : K
  hash : Option H
  ending : Option (Ending H)

inductive AttemptEvent (K H : Type) where
  | reserved (id : K)
  | submitted (hash : H)
  | ended (ending : Ending H)

def observe (attempts : List (Attempt K H)) : AttemptEvent K H → List (Attempt K H)
  | .reserved id => ⟨id, none, none⟩ :: attempts
  | .submitted hash => attempts.modifyHead fun a => { a with hash := some hash }
  | .ended ending => attempts.modifyHead fun a => { a with ending := some ending }

/-- The attempt was released before it was submitted, or reverted under the hash it was submitted
with. -/
def Attempt.Over (same : H → H → Bool) (a : Attempt K H) : Prop :=
  match a.ending with
  | none => False
  | some .released => a.hash = none
  | some (.reverted hash) => ∃ submitted, a.hash = some submitted ∧ same submitted hash = true

/-! ## Phases -/

/-- How far the latest attempt has come. What is kept never ends: it was confirmed, or nobody knows
what became of it. -/
inductive Phase (H : Type) where
  | idle
  | reserved
  | submitted (hash : H)
  | kept

def Tracks (same : H → H → Bool) (attempts : List (Attempt K H)) : Phase H → Prop
  | .idle => ∀ a ∈ attempts, a.Over same
  | .reserved => ∃ id rest, attempts = ⟨id, none, none⟩ :: rest ∧ ∀ a ∈ rest, a.Over same
  | .submitted hash =>
    ∃ id rest, attempts = ⟨id, some hash, none⟩ :: rest ∧ ∀ a ∈ rest, a.Over same
  | .kept => ∃ a rest, attempts = a :: rest ∧ a.ending = none ∧ ∀ b ∈ rest, b.Over same

variable {same : H → H → Bool} {attempts : List (Attempt K H)}

theorem Tracks.reserve (h : Tracks same attempts .idle) (id : K) :
    Tracks same (observe attempts (.reserved id)) .reserved := ⟨id, attempts, rfl, h⟩

theorem Tracks.submit (h : Tracks same attempts .reserved) (hash : H) :
    Tracks same (observe attempts (.submitted hash)) (.submitted hash) := by
  obtain ⟨id, rest, rfl, hrest⟩ := h
  exact ⟨id, rest, rfl, hrest⟩

theorem Tracks.release (h : Tracks same attempts .reserved) :
    Tracks same (observe attempts (.ended .released)) .idle := by
  obtain ⟨id, rest, rfl, hrest⟩ := h
  intro a ha
  rcases List.mem_cons.mp ha with rfl | ha
  · exact (rfl : (none : Option H) = none)
  · exact hrest a ha

theorem Tracks.revert {submitted hash : H} (h : Tracks same attempts (.submitted submitted))
    (hsame : same submitted hash = true) :
    Tracks same (observe attempts (.ended (.reverted hash))) .idle := by
  obtain ⟨id, rest, rfl, hrest⟩ := h
  intro a ha
  rcases List.mem_cons.mp ha with rfl | ha
  · exact ⟨submitted, rfl, hsame⟩
  · exact hrest a ha

theorem Tracks.keep_reserved (h : Tracks same attempts .reserved) : Tracks same attempts .kept := by
  obtain ⟨id, rest, rfl, hrest⟩ := h
  exact ⟨_, rest, rfl, rfl, hrest⟩

theorem Tracks.keep_submitted {hash : H} (h : Tracks same attempts (.submitted hash)) :
    Tracks same attempts .kept := by
  obtain ⟨id, rest, rfl, hrest⟩ := h
  exact ⟨_, rest, rfl, rfl, hrest⟩

theorem Attempt.Over.ending {a : Attempt K H} (h : a.Over same) : a.ending ≠ none := by
  intro hnone
  unfold Attempt.Over at h
  rw [hnone] at h
  exact h

theorem Tracks.tail {phase : Phase H} (h : Tracks same attempts phase) :
    ∀ a ∈ attempts.tail, a.Over same := by
  cases phase with
  | idle => exact fun a ha => h a (List.mem_of_mem_tail ha)
  | reserved | submitted hash =>
    obtain ⟨id, rest, rfl, hrest⟩ := h
    exact hrest
  | kept =>
    obtain ⟨a, rest, rfl, -, hrest⟩ := h
    exact hrest

theorem Tracks.at_most_one {phase : Phase H} (h : Tracks same attempts phase) :
    (attempts.filter fun a => a.ending.isNone).length ≤ 1 := by
  cases attempts with
  | nil => exact Nat.zero_le 1
  | cons a rest =>
    have hrest : rest.filter (fun a => a.ending.isNone) = [] :=
      List.filter_eq_nil_iff.mpr fun b hb hnone =>
        (h.tail b hb).ending (Option.isNone_iff_eq_none.mp hnone)
    rw [List.filter_cons]
    split
    · rw [hrest]
      exact Nat.le_refl 1
    · rw [hrest]
      exact Nat.zero_le 1

end App20.Lib
