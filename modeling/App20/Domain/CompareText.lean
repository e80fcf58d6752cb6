import App20.Domain.Felt
import App20.Lib.Sorting
import App20.Lib.Wire

/-!
# The order of texts

JavaScript compares texts by their code units of 16 bits. Characters outside the basic plane are
two units, and stand below some of the characters inside it.

* `compareText_eq`: texts that are equal in this order are the same.
-/

namespace App20.Domain

open App20.Lib

/-! ## Code units -/

def codeUnitsOf (c : Char) : List Nat :=
  if c.toNat < 0x10000 then [c.toNat]
  else [0xd800 + (c.toNat - 0x10000) / 0x400, 0xdc00 + (c.toNat - 0x10000) % 0x400]

def codeUnits (s : Text) : List Nat := s.flatMap codeUnitsOf

/-- No character is one of the units that come in pairs. -/
theorem not_surrogate (c : Char) : c.toNat < 0xd800 ∨ 0xdfff < c.toNat ∧ c.toNat < 0x110000 :=
  c.valid

theorem codeUnitsOf_prefixCode : PrefixCode codeUnitsOf := by
  intro c d s t h
  have hc := not_surrogate c
  have hd := not_surrogate d
  unfold codeUnitsOf at h
  split at h
  · split at h
    · obtain ⟨hhead, htail⟩ := List.cons.inj h
      exact ⟨Char.toNat_inj.mp hhead, htail⟩
    · obtain ⟨hhead, -⟩ := List.cons.inj h
      omega
  · split at h
    · obtain ⟨hhead, -⟩ := List.cons.inj h
      omega
    · obtain ⟨hhead, hrest⟩ := List.cons.inj h
      obtain ⟨hsecond, htail⟩ := List.cons.inj hrest
      refine ⟨Char.toNat_inj.mp ?_, htail⟩
      omega

theorem codeUnitsOf_ne_nil (c : Char) : codeUnitsOf c ≠ [] := by
  unfold codeUnitsOf
  split <;> exact List.cons_ne_nil _ _

theorem codeUnits_injective : Function.Injective codeUnits := by
  intro s
  induction s with
  | nil =>
    intro t h
    cases t with
    | nil => rfl
    | cons d t => exact absurd (List.append_eq_nil_iff.mp h.symm).1 (codeUnitsOf_ne_nil d)
  | cons c s ih =>
    intro t h
    cases t with
    | nil => exact absurd (List.append_eq_nil_iff.mp h).1 (codeUnitsOf_ne_nil c)
    | cons d t =>
      obtain ⟨hcd, hst⟩ := codeUnitsOf_prefixCode h
      rw [hcd, ih hst]

/-! ## Comparing -/

def compareText (left right : Text) : Ordering := compare (codeUnits left) (codeUnits right)

instance : Std.TransCmp compareText := inferInstanceAs (Std.TransCmp (compareOn codeUnits))

theorem compareText_eq {left right : Text} (h : compareText left right = .eq) : left = right :=
  codeUnits_injective (Std.LawfulEqCmp.eq_of_compare h)

def byText {α : Type} (f : α → Text) (left right : α) : Ordering := compareText (f left) (f right)

instance {α : Type} (f : α → Text) : Std.TransCmp (byText f) where
  eq_swap := fun {_ _} => @Std.OrientedCmp.eq_swap _ compareText _ _ _
  isLE_trans := fun {_ _ _} => @Std.TransCmp.isLE_trans _ compareText _ _ _ _

end App20.Domain
