import Mathlib.Algebra.Order.Group.Int
import Mathlib.Data.List.Chain

/-!
# Versions under revisions

The versions that one cell has held, the newest first, each of a higher revision than those before
it. Who wants to write names the revision that it has read; as no two versions share one, the write
is accepted only if what was read is the newest version.

* `eq_newest`: what was read at the newest revision is the newest version.
* `exists_exit`: where versions of one kind are left only by way of another kind.
-/

namespace App20.Lib

universe u

/-- The versions of a cell that holds one. -/
structure History (α : Type u) (revision : α → Int) where
  newest : α
  older : List α
  descending : (newest :: older).Pairwise fun a b => revision b < revision a

namespace History

variable {α : Type u} {revision : α → Int} {h : History α revision} {a b : α}

def versions (h : History α revision) : List α := h.newest :: h.older

/-- The cell that has held nothing else. -/
def single (a : α) : History α revision := ⟨a, [], List.pairwise_singleton _ a⟩

theorem newest_mem (h : History α revision) : h.newest ∈ h.versions := List.mem_cons_self

theorem revision_le (hb : b ∈ h.versions) : revision b ≤ revision h.newest := by
  rcases List.mem_cons.mp hb with rfl | hb
  · exact le_refl _
  · exact le_of_lt (List.rel_of_pairwise_cons h.descending hb)

/-- A version of a higher revision is put on top; any other leaves the cell as it is. -/
def write (h : History α revision) (a : α) : History α revision :=
  if hlt : revision h.newest < revision a then
    ⟨a, h.versions, List.pairwise_cons.mpr
      ⟨fun _ hb => lt_of_le_of_lt (revision_le hb) hlt, h.descending⟩⟩
  else h

theorem newest_write (hlt : revision h.newest < revision a) : (h.write a).newest = a := by
  unfold write
  rw [dif_pos hlt]

theorem write_of_not_lt (hlt : ¬ revision h.newest < revision a) : h.write a = h := by
  unfold write
  rw [dif_neg hlt]

theorem mem_write (hlt : revision h.newest < revision a) :
    b ∈ (h.write a).versions ↔ b = a ∨ b ∈ h.versions := by
  unfold write
  rw [dif_pos hlt]
  exact List.mem_cons

theorem eq_newest (ha : a ∈ h.versions) (hrevision : revision a = revision h.newest) :
    a = h.newest := by
  rcases List.mem_cons.mp ha with rfl | ha
  · rfl
  · exact absurd hrevision (ne_of_lt (List.rel_of_pairwise_cons h.descending ha))

end History

/-- If what has `P` is only followed by what has `P` or `Q`, then between what has `P` and a later
version that has not there is one with `Q`. -/
theorem exists_exit {α : Type u} {P Q : α → Prop} {x v : α} {newer older : List α}
    (hchain : List.IsChain (fun next before => P before → P next ∨ Q next)
      (x :: (newer ++ v :: older))) (hx : ¬ P x) (hv : P v) : ∃ q ∈ x :: newer, Q q := by
  induction newer generalizing x with
  | nil =>
    rcases (List.isChain_cons_cons.mp hchain).1 hv with hP | hQ
    · exact absurd hP hx
    · exact ⟨x, List.mem_cons_self, hQ⟩
  | cons y newer ih =>
    obtain ⟨hstep, hrest⟩ := List.isChain_cons_cons.mp hchain
    by_cases hy : P y
    · rcases hstep hy with hP | hQ
      · exact absurd hP hx
      · exact ⟨x, List.mem_cons_self, hQ⟩
    · obtain ⟨q, hq, hQ⟩ := ih hrest hy
      exact ⟨q, List.mem_cons_of_mem x hq, hQ⟩

end App20.Lib
