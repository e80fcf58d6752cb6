import App20.Domain.BigInt
import App20.Lib.Bytes
import App20.Lib.Exec
import Mathlib.Data.List.GetD

/-!
# Bytes in felts

The bytes of a message travel in felts: their length, and then blocks of 31 bytes. Keys and nonces
travel in two felts each.

* `unpack_pack`: what was packed is unpacked to the same bytes.
* `limbs_ok`: two felts are read back as the bytes they were made from.
-/

namespace App20.Mail

open App20.Lib App20.Domain

def feltPayloadBytes : Nat := 31
def maxCtFelts : Nat := 140
def maxPackedBytes : Nat := (maxCtFelts - 1) * feltPayloadBytes

abbrev FeltPair := Text × Text

def assertLength (bytes : Bytes) (length : Nat) (label : String) : Except String Unit :=
  throwIf (bytes.length ≠ length) (label ++ " must be exactly " ++ toString length ++ " bytes.")

def parseFelt (value : Text) (label : String) : Except String Nat :=
  match parseBigInt value with
  | none => .error (label ++ " is not an integer felt.")
  | some parsed => if parsed < 0 then .error (label ++ " cannot be negative.") else .ok parsed.toNat

def bigIntToFixedBytes (value : Text) (length : Nat) (label : String) : Except String Bytes := do
  let remaining ← parseFelt value label
  throwIf (256 ^ length ≤ remaining)
    (label ++ " does not fit in " ++ toString length ++ " bytes.")
  return natToBytes length remaining

/-! ## Packing -/

def packBytesToFelts (bytes : Bytes) : List Text :=
  hex bytes.length :: (blocks feltPayloadBytes bytes).map (hex ∘ bytesToNat)

def unpackFeltsToBytes (felts : List Text) : Except String Bytes :=
  match felts with
  | [] => .error "Packed felts are missing a byte length."
  | first :: payload => do
    throwIf (maxCtFelts < felts.length)
      ("Packed ciphertext exceeds " ++ toString maxCtFelts ++ " felts.")
    let byteLength ← parseFelt first "packed byte length"
    throwIf (maxPackedBytes < byteLength) "Packed byte length exceeds the message payload limit."
    let payloadCount := blockCount feltPayloadBytes byteLength
    throwIf (felts.length ≠ payloadCount + 1) ("Packed felt count does not match byte length (" ++
      toString (payloadCount + 1) ++ " expected).")
    let chunks ← (List.range payloadCount).mapM fun index =>
      bigIntToFixedBytes (payload.getD index [])
        (min feltPayloadBytes (byteLength - index * feltPayloadBytes))
        ("packed felt " ++ toString index)
    return chunks.flatten

theorem parseFelt_hex (n : Nat) (label : String) : parseFelt (hex n) label = .ok n := by
  unfold parseFelt
  rw [parseBigInt_hex]
  simp only
  rw [if_neg (by omega), Int.toNat_natCast]

/-- A felt that was made from bytes is read back. -/
theorem bigIntToFixedBytes_hex {bytes : Bytes} {length : Nat} (h : bytes.length = length)
    (label : String) : bigIntToFixedBytes (hex (bytesToNat bytes)) length label = .ok bytes := by
  have hfits : ¬ 256 ^ length ≤ bytesToNat bytes := by
    rw [← h, not_le]
    exact bytesToNat_lt bytes
  unfold bigIntToFixedBytes
  rw [parseFelt_hex, ok_bind, throwIf_neg hfits, ok_bind, ← h, natToBytes_bytesToNat]
  rfl

theorem mapM_eq_ok {ε α β : Type} {f : α → Except ε β} {g : α → β} {xs : List α}
    (h : ∀ x ∈ xs, f x = .ok (g x)) : xs.mapM f = .ok (xs.map g) := by
  induction xs with
  | nil => rfl
  | cons x xs ih =>
    rw [List.mapM_cons, h x List.mem_cons_self, ok_bind,
      ih fun y hy => h y (List.mem_cons_of_mem x hy)]
    rfl

theorem length_packBytesToFelts (bytes : Bytes) :
    (packBytesToFelts bytes).length = 1 + blockCount feltPayloadBytes bytes.length := by
  unfold packBytesToFelts
  rw [List.length_cons, List.length_map, length_blocks, Nat.add_comm]

theorem fits_iff (length : Nat) :
    1 + blockCount feltPayloadBytes length ≤ maxCtFelts ↔ length ≤ maxPackedBytes := by
  have h := blockCount_le_iff (show 0 < feltPayloadBytes by decide) length (maxCtFelts - 1)
  unfold maxPackedBytes
  rw [← h]
  unfold maxCtFelts
  omega

theorem unpack_pack {bytes : Bytes} (h : bytes.length ≤ maxPackedBytes) :
    unpackFeltsToBytes (packBytesToFelts bytes) = .ok bytes := by
  have hcount := (fits_iff bytes.length).mpr h
  have hlength := length_packBytesToFelts bytes
  have hchunk : ∀ index ∈ List.range (blockCount feltPayloadBytes bytes.length),
      bigIntToFixedBytes (((blocks feltPayloadBytes bytes).map (hex ∘ bytesToNat)).getD index [])
        (min feltPayloadBytes (bytes.length - index * feltPayloadBytes))
        ("packed felt " ++ toString index) = .ok (block feltPayloadBytes bytes index) := by
    intro index hindex
    rw [List.mem_range, ← length_blocks] at hindex
    have hget : ((blocks feltPayloadBytes bytes).map (hex ∘ bytesToNat)).getD index [] =
        hex (bytesToNat (block feltPayloadBytes bytes index)) := by
      rw [List.getD_eq_getElem _ _ (by rwa [List.length_map]), List.getElem_map]
      unfold blocks
      rw [List.getElem_map, List.getElem_range]
      rfl
    rw [hget]
    exact bigIntToFixedBytes_hex (length_block bytes index) _
  unfold packBytesToFelts at hlength ⊢
  unfold unpackFeltsToBytes
  simp only
  rw [throwIf_neg (by omega), ok_bind, parseFelt_hex, ok_bind,
    throwIf_neg (by omega), ok_bind, throwIf_neg (by omega), ok_bind, mapM_eq_ok hchunk, ok_bind]
  exact congrArg Except.ok (flatten_blocks (by decide) bytes)

/-! ## Keys and nonces -/

def limbs (half : Nat) (bytes : Bytes) : FeltPair :=
  (hex (bytesToNat (bytes.take half)), hex (bytesToNat (bytes.drop half)))

def publicKeyToFelts (publicKey : Bytes) : Except String FeltPair := do
  assertLength publicKey 32 "x25519 public key"
  return limbs 16 publicKey

def publicKeyFromFelts (pair : FeltPair) : Except String Bytes := do
  let first ← bigIntToFixedBytes pair.1 16 "public key limb 0"
  let second ← bigIntToFixedBytes pair.2 16 "public key limb 1"
  return first ++ second

def nonceToFelts (nonce : Bytes) : Except String FeltPair := do
  assertLength nonce 12 "AES-GCM nonce"
  return limbs 6 nonce

def nonceFromFelts (pair : FeltPair) : Except String Bytes := do
  let first ← bigIntToFixedBytes pair.1 6 "nonce limb 0"
  let second ← bigIntToFixedBytes pair.2 6 "nonce limb 1"
  return first ++ second

theorem limbs_ok (half : Nat) {bytes : Bytes} (h : bytes.length = half + half)
    (label label' : String) :
    bigIntToFixedBytes (limbs half bytes).1 half label = .ok (bytes.take half) ∧
      bigIntToFixedBytes (limbs half bytes).2 half label' = .ok (bytes.drop half) := by
  constructor
  · apply bigIntToFixedBytes_hex
    rw [List.length_take, h]
    omega
  · apply bigIntToFixedBytes_hex
    rw [List.length_drop, h]
    omega

theorem publicKeyFromFelts_limbs {publicKey : Bytes} (h : publicKey.length = 32) :
    publicKeyFromFelts (limbs 16 publicKey) = .ok publicKey := by
  obtain ⟨hfirst, hsecond⟩ := limbs_ok 16 h "public key limb 0" "public key limb 1"
  unfold publicKeyFromFelts
  rw [hfirst, ok_bind, hsecond, ok_bind, List.take_append_drop]
  rfl

theorem nonceFromFelts_limbs {nonce : Bytes} (h : nonce.length = 12) :
    nonceFromFelts (limbs 6 nonce) = .ok nonce := by
  obtain ⟨hfirst, hsecond⟩ := limbs_ok 6 h "nonce limb 0" "nonce limb 1"
  unfold nonceFromFelts
  rw [hfirst, ok_bind, hsecond, ok_bind, List.take_append_drop]
  rfl

end App20.Mail
