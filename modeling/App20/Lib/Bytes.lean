import Mathlib.Algebra.Order.Ring.Int
import Mathlib.Data.List.Induction
import Mathlib.Data.List.TakeDrop

/-!
# Bytes

Numbers are written to bytes with the highest first, and byte strings are cut into blocks of one
size, of which the last may be shorter.

* `natToBytes_bytesToNat`: bytes are read back from their number, when their length is known.
* `flatten_blocks`: the blocks are the whole.
-/

namespace App20.Lib

abbrev Bytes := List (Fin 256)

instance neZeroByte : NeZero 256 := ⟨by decide⟩

/-! ## Numbers -/

def bytesToNat (bytes : Bytes) : Nat := bytes.foldl (fun value byte => value * 256 + byte.val) 0

def natToBytes : Nat → Nat → Bytes
  | 0, _ => []
  | length + 1, n => natToBytes length (n / 256) ++ [Fin.ofNat 256 n]

theorem bytesToNat_concat (bytes : Bytes) (byte : Fin 256) :
    bytesToNat (bytes ++ [byte]) = bytesToNat bytes * 256 + byte.val := by
  unfold bytesToNat
  rw [List.foldl_append, List.foldl_cons, List.foldl_nil]

theorem bytesToNat_lt (bytes : Bytes) : bytesToNat bytes < 256 ^ bytes.length := by
  induction bytes using List.reverseRecOn with
  | nil => decide
  | append_singleton bytes byte ih =>
    rw [bytesToNat_concat, List.length_append, List.length_singleton, Nat.pow_succ]
    have hbyte := byte.isLt
    omega

theorem natToBytes_bytesToNat (bytes : Bytes) :
    natToBytes bytes.length (bytesToNat bytes) = bytes := by
  induction bytes using List.reverseRecOn with
  | nil => rfl
  | append_singleton bytes byte ih =>
    have hbyte := byte.isLt
    have hdiv : (bytesToNat bytes * 256 + byte.val) / 256 = bytesToNat bytes := by omega
    have hmod : Fin.ofNat 256 (bytesToNat bytes * 256 + byte.val) = byte := by
      apply Fin.ext
      rw [Fin.val_ofNat]
      omega
    rw [bytesToNat_concat, List.length_append, List.length_singleton]
    unfold natToBytes
    rw [hdiv, hmod, ih]

/-! ## Blocks -/

variable {α : Type}

def blockCount (size length : Nat) : Nat := (length + size - 1) / size

def block (size : Nat) (xs : List α) (index : Nat) : List α := (xs.drop (index * size)).take size

def blocks (size : Nat) (xs : List α) : List (List α) :=
  (List.range (blockCount size xs.length)).map (block size xs)

theorem length_blocks (size : Nat) (xs : List α) :
    (blocks size xs).length = blockCount size xs.length := by
  unfold blocks
  rw [List.length_map, List.length_range]

variable {size : Nat}

theorem blockCount_le_iff (hsize : 0 < size) (length count : Nat) :
    blockCount size length ≤ count ↔ length ≤ count * size := by
  unfold blockCount
  rw [Nat.div_le_iff_le_mul_add_pred hsize, Nat.mul_comm count size]
  omega

theorem flatten_map_block (size : Nat) (xs : List α) (count : Nat) :
    ((List.range count).map (block size xs)).flatten = xs.take (count * size) := by
  induction count with
  | zero => simp
  | succ count ih =>
    rw [List.range_succ, List.map_append, List.flatten_append, ih, List.map_singleton,
      List.flatten_singleton, Nat.succ_mul, List.take_add]
    rfl

theorem flatten_blocks (hsize : 0 < size) (xs : List α) : (blocks size xs).flatten = xs := by
  unfold blocks
  rw [flatten_map_block]
  exact List.take_of_length_le ((blockCount_le_iff hsize _ _).mp (Nat.le_refl _))

theorem length_block (xs : List α) (index : Nat) :
    (block size xs index).length = min size (xs.length - index * size) := by
  unfold block
  rw [List.length_take, List.length_drop]

theorem block_flatten {xss : List (List α)} (hsize : ∀ xs ∈ xss, xs.length = size) (rest : List α)
    (index : Nat) (hindex : index < xss.length) :
    block size (xss.flatten ++ rest) index = xss[index] := by
  induction xss generalizing index with
  | nil => exact absurd hindex (Nat.not_lt_zero _)
  | cons xs xss ih =>
    have hlength : xs.length = size := hsize xs List.mem_cons_self
    unfold block
    cases index with
    | zero =>
      rw [Nat.zero_mul, List.drop_zero, List.flatten_cons, List.append_assoc, ← hlength,
        List.take_left]
      rfl
    | succ index =>
      have hrest := ih (fun ys hys => hsize ys (List.mem_cons_of_mem xs hys)) index
        (Nat.lt_of_succ_lt_succ hindex)
      rw [Nat.succ_mul, Nat.add_comm, ← List.drop_drop, List.flatten_cons, List.append_assoc,
        ← hlength, List.drop_left, hlength]
      exact hrest

theorem length_flatten_of_forall {xss : List (List α)} (hsize : ∀ xs ∈ xss, xs.length = size) :
    xss.flatten.length = xss.length * size := by
  induction xss with
  | nil => simp
  | cons xs xss ih =>
    rw [List.flatten_cons, List.length_append, hsize xs List.mem_cons_self,
      ih fun ys hys => hsize ys (List.mem_cons_of_mem xs hys), List.length_cons, Nat.succ_mul,
      Nat.add_comm]

end App20.Lib
