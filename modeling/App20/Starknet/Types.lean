import Mathlib.Algebra.Order.Ring.Int
import Mathlib.Data.Fintype.Basic

/-!
# Felts, machine integers and panics

The value types of Cairo. A machine integer of `w` bits is a `Fin (2 ^ w)`; the wrapping
operations of `Fin` are never used, since Cairo's operators panic when the result does not
fit: `checkedAdd`, `checkedSub` and `checkedMul` give `none` then.

`Panic ε` collects what makes a call revert: an assertion of the contract itself (with its
error constant, of type `ε`) or a panic of the core library.
-/

namespace App20.Starknet

/-- The modulus of the field that `felt252` stands for. -/
def fieldPrime : Nat := 2 ^ 251 + 17 * 2 ^ 192 + 1

instance : NeZero fieldPrime := ⟨by decide⟩
instance neZeroAddress : NeZero (2 ^ 251) := ⟨by decide⟩
instance neZeroU8 : NeZero (2 ^ 8) := ⟨by decide⟩
instance neZeroU64 : NeZero (2 ^ 64) := ⟨by decide⟩
instance neZeroU128 : NeZero (2 ^ 128) := ⟨by decide⟩
instance neZeroU256 : NeZero (2 ^ 256) := ⟨by decide⟩

abbrev Felt := Fin fieldPrime
abbrev ContractAddress := Fin (2 ^ 251)
abbrev U8 := Fin (2 ^ 8)
abbrev U32 := Fin (2 ^ 32)
abbrev U64 := Fin (2 ^ 64)
abbrev U128 := Fin (2 ^ 128)
abbrev U256 := Fin (2 ^ 256)

def shortString (s : String) : Felt :=
  Fin.ofNat fieldPrime (s.toList.foldl (fun n c => n * 256 + c.toNat) 0)

/-- What makes a call revert. -/
inductive Panic (ε : Type) where
  /-- An assertion (or `expect`) of the contract, with its error constant. -/
  | error (e : ε)
  /-- The result of a machine operation does not fit. -/
  | overflow
  /-- A subtraction of machine integers below zero. -/
  | underflow
  | divisionByZero
  /-- `unwrap` of a failed conversion. -/
  | unwrapNone
  | indexOutOfBounds
  /-- A called contract reverted. -/
  | callReverted
  deriving DecidableEq

/-! ## Stateless checks -/

section Checks

variable {ε α : Type}

/-- `assert` in a stateless computation. -/
def check (c : Prop) [Decidable c] (e : ε) : Except (Panic ε) Unit :=
  if c then .ok () else .error (.error e)

/-- The value of a core-library operation, or its panic. -/
def orPanic (o : Option α) (p : Panic ε) : Except (Panic ε) α :=
  match o with
  | some a => .ok a
  | none => .error p

theorem check_ok_iff {c : Prop} [Decidable c] {e : ε} {u : Unit} : check c e = .ok u ↔ c := by
  unfold check
  split <;> simp [*]

theorem check_pos {c : Prop} [Decidable c] {e : ε} (h : c) : check c e = .ok () :=
  check_ok_iff.mpr h

theorem check_error_iff {c : Prop} [Decidable c] {e : ε} {p : Panic ε} :
    check c e = .error p ↔ ¬ c ∧ p = .error e := by
  unfold check
  split <;> simp [*, eq_comm]

theorem orPanic_ok_iff {o : Option α} {p : Panic ε} {a : α} : orPanic o p = .ok a ↔ o = some a := by
  cases o <;> simp [orPanic]

end Checks

/-! ## Conversions -/

theorem address_le : 2 ^ 251 ≤ fieldPrime := by decide
theorem u8_le : 2 ^ 8 ≤ fieldPrime := by decide
theorem u128_le : 2 ^ 128 ≤ fieldPrime := by decide
theorem u128_le_u256 : 2 ^ 128 ≤ 2 ^ 256 := by decide

/-- `into`: a conversion that cannot fail. -/
def into {n m : Nat} (a : Fin n)
    (h : n ≤ m := by
      first | exact address_le | exact u8_le | exact u128_le | exact u128_le_u256 | decide) :
    Fin m := Fin.castLE h a

/-- `try_into`: a conversion that fails when the value does not fit. -/
def tryInto {n : Nat} (m : Nat) (a : Fin n) : Option (Fin m) :=
  if h : a.val < m then some ⟨a.val, h⟩ else none

variable {n m : Nat}

@[simp] theorem into_val {a : Fin n} {h : n ≤ m} : (into a h : Fin m).val = a.val := rfl

theorem tryInto_eq_some {a : Fin n} {c : Fin m} : tryInto m a = some c ↔ c.val = a.val := by
  unfold tryInto
  split
  · rw [Option.some.injEq, Fin.ext_iff, eq_comm]
  · have := c.isLt
    simp only [reduceCtorEq, false_iff]
    omega

theorem tryInto_into {a : Fin n} {h : n ≤ m} : tryInto n (into a h : Fin m) = some a :=
  tryInto_eq_some.mpr rfl

/-! ## Checked arithmetic -/

def checkedAdd (a b : Fin n) : Option (Fin n) :=
  if h : a.val + b.val < n then some ⟨a.val + b.val, h⟩ else none

def checkedSub (a b : Fin n) : Option (Fin n) :=
  if b.val ≤ a.val then some ⟨a.val - b.val, by omega⟩ else none

def checkedMul (a b : Fin n) : Option (Fin n) :=
  if h : a.val * b.val < n then some ⟨a.val * b.val, h⟩ else none

def checkedDiv (a b : Fin n) : Option (Fin n) :=
  if b.val = 0 then none
  else some ⟨a.val / b.val, lt_of_le_of_lt (Nat.div_le_self _ _) a.isLt⟩

theorem checkedAdd_eq_some {a b c : Fin n} : checkedAdd a b = some c ↔ c.val = a.val + b.val := by
  unfold checkedAdd
  split
  · rw [Option.some.injEq, Fin.ext_iff, eq_comm]
  · have := c.isLt
    simp only [reduceCtorEq, false_iff]
    omega

theorem checkedSub_eq_some {a b c : Fin n} : checkedSub a b = some c ↔ a.val = c.val + b.val := by
  unfold checkedSub
  split
  · rw [Option.some.injEq, Fin.ext_iff]
    dsimp only
    omega
  · simp only [reduceCtorEq, false_iff]
    omega

theorem checkedSub_eq_none {a b : Fin n} : checkedSub a b = none ↔ a.val < b.val := by
  unfold checkedSub
  split <;> simp <;> omega

theorem checkedMul_eq_some {a b c : Fin n} : checkedMul a b = some c ↔ c.val = a.val * b.val := by
  unfold checkedMul
  split
  · rw [Option.some.injEq, Fin.ext_iff, eq_comm]
  · have := c.isLt
    simp only [reduceCtorEq, false_iff]
    omega

theorem checkedDiv_eq_some {a b c : Fin n} :
    checkedDiv a b = some c ↔ b.val ≠ 0 ∧ c.val = a.val / b.val := by
  unfold checkedDiv
  split
  · simp [*]
  · rw [Option.some.injEq, Fin.ext_iff, eq_comm]
    simp [*]

end App20.Starknet
