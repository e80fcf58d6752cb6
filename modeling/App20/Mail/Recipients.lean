import App20.Mail.Encryption
import Mathlib.Data.Nat.Bitwise

/-!
# Who can read a message

The cipher is ideal: under a key, a nonce and additional data opens only what was sealed under them.
The additional data of a record names its ephemeral key and its nonce, and the two kinds of records
and the parts of a record name different domains, so that nothing opens in the place of another.

* `decryptCiphertext_single`, `decryptCiphertext_multi`: whose secret opens a record, and to what.
* `mail_delivered`: the recipients read the message, nobody else does, and its size is foreseen.
-/

namespace App20.Mail

open App20.Lib App20.Domain
open App20.Intents (bytesToHex)

/-! ## Comparing bytes -/

theorem foldl_or_eq_zero (xs : List Nat) (acc : Nat) :
    xs.foldl (· ||| ·) acc = 0 ↔ acc = 0 ∧ ∀ x ∈ xs, x = 0 := by
  induction xs generalizing acc with
  | nil => simp
  | cons x xs ih =>
    rw [List.foldl_cons, ih, Nat.or_eq_zero_iff, List.forall_mem_cons, and_assoc]

variable {left right sharedSecret ciphertext : Bytes} {material : MultiRecipientMaterial}
  {parsed : ParsedMultiRecipientCiphertext} {x : Sealing}

theorem differences_eq_zero (h : left.length = right.length) :
    (∀ x ∈ List.zipWith (fun a b => a.val ^^^ b.val) left right, x = 0) ↔ left = right := by
  induction left generalizing right with
  | nil =>
    cases right with
    | nil => simp
    | cons b right => cases h
  | cons a left ih =>
    cases right with
    | nil => cases h
    | cons b right =>
      rw [List.zipWith_cons_cons, List.forall_mem_cons, ih (Nat.succ.inj h), Nat.xor_eq_zero_iff,
        List.cons.injEq, Fin.ext_iff]

theorem equalBytes_iff : equalBytes left right = true ↔ left = right := by
  unfold equalBytes
  rw [Bool.and_eq_true, decide_eq_true_eq, beq_iff_eq, foldl_or_eq_zero]
  constructor
  · rintro ⟨hlength, -, hzero⟩
    exact (differences_eq_zero hlength).mp hzero
  · rintro rfl
    exact ⟨rfl, rfl, (differences_eq_zero rfl).mpr rfl⟩

/-! ## Domains -/

theorem mailAad_ne_multi (ephemeralPublicKey nonce ephemeralPublicKey' nonce' rest : Bytes)
    (slotCount : Nat) : mailAad ephemeralPublicKey nonce ≠
      multiAadPrefix ephemeralPublicKey' nonce' slotCount ++ rest := by
  intro h
  have hdomain := congrArg (List.take 12) h
  unfold mailAad multiAadPrefix at hdomain
  simp only [List.append_assoc] at hdomain
  rw [List.take_append_of_le_length (by decide), List.take_append_of_le_length (by decide)]
    at hdomain
  exact absurd hdomain (by decide)

theorem multiBodyAad_ne_slot (aadPrefix bodyNonce slotTag : Bytes) (slotIndex : Nat) :
    multiBodyAad aadPrefix bodyNonce ≠ multiSlotAad aadPrefix slotIndex slotTag := by
  intro h
  unfold multiBodyAad multiSlotAad at h
  simp only [List.append_assoc] at h
  have hlabel := congrArg (List.take 4) (List.append_cancel_left h)
  rw [List.take_append_of_le_length (by decide), List.take_append_of_le_length (by decide)]
    at hlabel
  exact absurd hlabel (by decide)

/-- The additional data is that of a record. -/
def Concerns (ephemeralPublicKey nonce aad : Bytes) : Prop :=
  aad = mailAad ephemeralPublicKey nonce ∨
    ∃ slotCount rest, aad = multiAadPrefix ephemeralPublicKey nonce slotCount ++ rest

theorem concerns_slot (ephemeralPublicKey nonce slotTag : Bytes) (slotCount slotIndex : Nat) :
    Concerns ephemeralPublicKey nonce
      (multiSlotAad (multiAadPrefix ephemeralPublicKey nonce slotCount) slotIndex slotTag) := by
  refine .inr ⟨slotCount, multiSlotAadLabel ++ ([Fin.ofNat 256 slotIndex] ++ slotTag), ?_⟩
  unfold multiSlotAad
  simp only [List.append_assoc]

theorem concerns_body (ephemeralPublicKey nonce bodyNonce : Bytes) (slotCount : Nat) :
    Concerns ephemeralPublicKey nonce
      (multiBodyAad (multiAadPrefix ephemeralPublicKey nonce slotCount) bodyNonce) := by
  refine .inr ⟨slotCount, multiBodyAadLabel ++ bodyNonce, ?_⟩
  unfold multiBodyAad
  simp only [List.append_assoc]

/-! ## Ideal primitives -/

variable {c : Primitives}

/-- Two sides agree on a secret, and one key agrees on different secrets with different keys. -/
structure Agreement (c : Primitives) : Prop where
  agree : ∀ a b : Bytes, a.length = 32 → b.length = 32 → ∃ s,
    c.getSharedSecret a (c.getPublicKey b).toList = .ok s ∧
      c.getSharedSecret b (c.getPublicKey a).toList = .ok s
  distinct : ∀ a b b' s : Bytes, c.getSharedSecret a (c.getPublicKey b).toList = .ok s →
    c.getSharedSecret a (c.getPublicKey b').toList = .ok s → c.getPublicKey b = c.getPublicKey b'

/-- Different secrets, among these, give different keys and tags. -/
def Separates (c : Primitives) (secrets : Set Bytes) : Prop :=
  ∀ s ∈ secrets, ∀ s' ∈ secrets, ∀ salt info length, 16 ≤ length →
    c.hkdf s salt info length = c.hkdf s' salt info length → s = s'

structure IdealCipher (c : Primitives) (sealed : Set Sealing) : Prop where
  length : ∀ x, (c.aesGcmEncrypt x).length = x.plaintext.length + aesTagBytes
  opens : ∀ rawKey nonce aad ciphertext plaintext,
    c.aesGcmDecrypt rawKey nonce aad ciphertext = .ok plaintext ↔
      ⟨rawKey, nonce, aad, plaintext⟩ ∈ sealed ∧
        ciphertext = c.aesGcmEncrypt ⟨rawKey, nonce, aad, plaintext⟩

/-- What was sealed for a record: its ephemeral key and nonce were used for nothing else. -/
structure SealedFor (sealed : Set Sealing) (ephemeralPublicKey nonce : Bytes)
    (made : List Sealing) : Prop where
  included : ∀ x ∈ made, x ∈ sealed
  only : ∀ x ∈ sealed, Concerns ephemeralPublicKey nonce x.aad → x ∈ made

/-! ## Slots -/

def slotAt (c : Primitives) (r : Randomness) (aadPrefix : Bytes)
    (entry : MultiRecipientMaterial × Nat) : Slot :=
  ⟨entry.2, entry.1.slotTag, c.aesGcmEncrypt (slotSealing r aadPrefix entry.1 entry.2)⟩

section Wire

variable {r : Randomness} {aadPrefix plaintext : Bytes} {materials : List MultiRecipientMaterial}

theorem length_slots (hlength : ∀ x, (c.aesGcmEncrypt x).length = x.plaintext.length + aesTagBytes)
    (htags : ∀ m ∈ materials, m.slotTag.length = multiSlotTagBytes) (r : Randomness)
    (aadPrefix : Bytes) :
    ∀ bytes ∈ materials.zipIdx.map fun (material, index) => slotBytes c r aadPrefix material index,
      bytes.length = multiRecipientSlotBytes := by
  intro bytes hbytes
  obtain ⟨⟨material, index⟩, hentry, rfl⟩ := List.mem_map.mp hbytes
  have htag := htags material (List.fst_mem_of_mem_zipIdx hentry)
  unfold slotBytes slotSealing
  rw [List.length_append, htag, hlength, Vector.length_toList]
  rfl

theorem length_multiWireBytes
    (hlength : ∀ x, (c.aesGcmEncrypt x).length = x.plaintext.length + aesTagBytes)
    (htags : ∀ m ∈ materials, m.slotTag.length = multiSlotTagBytes) (r : Randomness)
    (aadPrefix plaintext : Bytes) :
    (multiWireBytes c r aadPrefix materials plaintext).length =
      multiFixedBytes + materials.length * multiRecipientSlotBytes + plaintext.length := by
  have hmarker : multiRecipientMarker.length = 3 := by decide
  unfold multiWireBytes bodySealing
  simp only [List.length_append, hmarker, length_flatten_of_forall (length_slots hlength htags r aadPrefix),
    List.length_map, List.length_zipIdx, hlength, Vector.length_toList, List.length_cons,
    List.length_nil]
  unfold multiFixedBytes multiHeaderBytes multiMarkerBytes nonceBytes
  omega

theorem multiWireBytes_eq : multiWireBytes c r aadPrefix materials plaintext =
    65 :: 50 :: 48 :: multiRecipientVersion :: Fin.ofNat 256 materials.length ::
      ((materials.zipIdx.map fun (material, index) =>
        slotBytes c r aadPrefix material index).flatten ++
        (r.bodyNonce.toList ++ c.aesGcmEncrypt (bodySealing r aadPrefix plaintext))) := by
  have hmarker : multiRecipientMarker = [65, 50, 48] := by decide
  unfold multiWireBytes
  rw [hmarker]
  simp only [List.cons_append, List.nil_append, List.append_assoc]

theorem hasMultiRecipientMarker_wire :
    hasMultiRecipientMarker (multiWireBytes c r aadPrefix materials plaintext) = true := by
  have hmarker : multiRecipientMarker = [65, 50, 48] := by decide
  unfold hasMultiRecipientMarker
  rw [multiWireBytes_eq, hmarker, decide_eq_true_eq]
  refine ⟨?_, rfl⟩
  simp only [List.length_cons, multiMarkerBytes]
  omega

theorem parseMultiRecipientCiphertext_wire
    (hlength : ∀ x, (c.aesGcmEncrypt x).length = x.plaintext.length + aesTagBytes)
    (htags : ∀ m ∈ materials, m.slotTag.length = multiSlotTagBytes)
    (htwo : 2 ≤ materials.length) (hmany : materials.length ≤ maxMultiRecipients) :
    parseMultiRecipientCiphertext (multiWireBytes c r aadPrefix materials plaintext) =
      .ok ⟨materials.length, materials.zipIdx.map (slotAt c r aadPrefix), r.bodyNonce.toList,
        c.aesGcmEncrypt (bodySealing r aadPrefix plaintext)⟩ := by
  have htotal := length_multiWireBytes hlength htags r aadPrefix plaintext
  have hslots := length_slots hlength htags r aadPrefix
  have hflat := length_flatten_of_forall hslots
  rw [List.length_map, List.length_zipIdx] at hflat
  have hmax : maxMultiRecipients = 66 := by decide
  have hcount : (Fin.ofNat 256 materials.length).val = materials.length := by
    rw [Fin.val_ofNat]
    omega
  have hdrop : (multiWireBytes c r aadPrefix materials plaintext).drop multiHeaderBytes =
      (materials.zipIdx.map fun (material, index) =>
        slotBytes c r aadPrefix material index).flatten ++
        (r.bodyNonce.toList ++ c.aesGcmEncrypt (bodySealing r aadPrefix plaintext)) := by
    rw [multiWireBytes_eq]
    rfl
  have htail : (multiWireBytes c r aadPrefix materials plaintext).drop
      (multiHeaderBytes + materials.length * multiRecipientSlotBytes) =
      r.bodyNonce.toList ++ c.aesGcmEncrypt (bodySealing r aadPrefix plaintext) := by
    rw [← List.drop_drop, hdrop, ← hflat, List.drop_left]
  have hversion : (multiWireBytes c r aadPrefix materials plaintext)[multiMarkerBytes]? =
      some multiRecipientVersion := by
    rw [multiWireBytes_eq]
    rfl
  have hbyte : (multiWireBytes c r aadPrefix materials plaintext).getD (multiMarkerBytes + 1) 0 =
      Fin.ofNat 256 materials.length := by
    rw [multiWireBytes_eq]
    rfl
  have hparsed : ((List.range materials.length).map fun index =>
      (⟨index, (block multiRecipientSlotBytes ((multiWireBytes c r aadPrefix materials
          plaintext).drop multiHeaderBytes) index).take multiSlotTagBytes,
        (block multiRecipientSlotBytes ((multiWireBytes c r aadPrefix materials
          plaintext).drop multiHeaderBytes) index).drop multiSlotTagBytes⟩ : Slot)) =
      materials.zipIdx.map (slotAt c r aadPrefix) := by
    apply List.ext_getElem
    · rw [List.length_map, List.length_map, List.length_range, List.length_zipIdx]
    · intro index hindex hindex'
      rw [List.length_map, List.length_range] at hindex
      have htag : materials[index].slotTag.length = multiSlotTagBytes :=
        htags _ (List.getElem_mem hindex)
      have hblock := block_flatten hslots
        (r.bodyNonce.toList ++ c.aesGcmEncrypt (bodySealing r aadPrefix plaintext))
        index (by rwa [List.length_map, List.length_zipIdx])
      rw [List.getElem_map, List.getElem_zipIdx, Nat.zero_add] at hblock
      rw [List.getElem_map, List.getElem_range, List.getElem_map, List.getElem_zipIdx, hdrop,
        hblock, Nat.zero_add]
      unfold slotAt slotBytes
      rw [← htag, List.take_left, List.drop_left]
  unfold parseMultiRecipientCiphertext
  simp only [hasMultiRecipientMarker_wire, hversion, hbyte, hcount]
  rw [throwIf_neg (by decide), ok_bind, throwIf_neg ?_, ok_bind,
    throwIf_neg (by simp), ok_bind, throwIf_neg (by omega), ok_bind,
    throwIf_neg ?_, ok_bind, hparsed, htail, ← List.drop_drop, htail]
  · rw [show nonceBytes = r.bodyNonce.toList.length from (Vector.length_toList ..).symm,
      List.take_left, List.drop_left]
    rfl
  · rw [htotal]
    unfold multiFixedBytes
    omega
  · rw [htotal]
    unfold multiFixedBytes
    omega

end Wire

theorem openSlots_ok {nonce aadPrefix plaintext : Bytes} {found : Bool} {slots : List Slot}
    (h : openSlots c material nonce aadPrefix parsed found slots = .ok plaintext) :
    ∃ slot ∈ slots, openSlot c material nonce aadPrefix parsed slot = .ok plaintext := by
  induction slots generalizing found with
  | nil => cases h
  | cons slot slots ih =>
    have hlater : ∀ {found : Bool},
        openSlots c material nonce aadPrefix parsed found slots = .ok plaintext →
        ∃ s ∈ slot :: slots, openSlot c material nonce aadPrefix parsed s = .ok plaintext := by
      intro found hrest
      obtain ⟨s, hs, hopen⟩ := ih hrest
      exact ⟨s, List.mem_cons_of_mem slot hs, hopen⟩
    unfold openSlots at h
    split at h
    · exact hlater h
    · split at h
      · rename_i opened hopen
        cases h
        exact ⟨slot, List.mem_cons_self, hopen⟩
      · exact hlater h

theorem openSlots_of_mem {nonce aadPrefix plaintext : Bytes} {slots : List Slot} {slot : Slot}
    (hslot : slot ∈ slots) (htag : slot.tag = material.slotTag)
    (hopen : openSlot c material nonce aadPrefix parsed slot = .ok plaintext) (found : Bool) :
    ∃ plaintext', openSlots c material nonce aadPrefix parsed found slots = .ok plaintext' := by
  induction slots generalizing found with
  | nil => cases hslot
  | cons first slots ih =>
    unfold openSlots
    split
    · rename_i hother
      rcases List.mem_cons.mp hslot with rfl | hlater
      · rw [equalBytes_iff.mpr htag] at hother
        cases hother
      · exact ih hlater found
    · split
      · rename_i opened hfirst
        exact ⟨opened, rfl⟩
      · rename_i e hfirst
        rcases List.mem_cons.mp hslot with rfl | hlater
        · rw [hopen] at hfirst
          cases hfirst
        · exact ih hlater true

/-! ## Opening -/

section Opening

variable {secrets : Set Bytes} {sealed : Set Sealing} {ephemeralPublicKey nonce : Bytes}
  {record : EncryptedMailRecord}

theorem openSlot_sealed {made : List Sealing} {plaintext : Bytes} {slotCount : Nat} {slot : Slot}
    (hcipher : IdealCipher c sealed) (hsealed : SealedFor sealed ephemeralPublicKey nonce made)
    (h : openSlot c material nonce (multiAadPrefix ephemeralPublicKey nonce slotCount) parsed slot =
      .ok plaintext) :
    ∃ dek, ⟨material.wrappingKey, multiSlotNonce nonce slot.index,
        multiSlotAad (multiAadPrefix ephemeralPublicKey nonce slotCount) slot.index slot.tag,
        dek⟩ ∈ made ∧ ⟨dek, parsed.bodyNonce,
        multiBodyAad (multiAadPrefix ephemeralPublicKey nonce slotCount) parsed.bodyNonce,
        plaintext⟩ ∈ made := by
  simp only [openSlot, bind_ok] at h
  obtain ⟨dek, hdek, -, -, hbody⟩ := h
  refine ⟨dek, hsealed.only _ ((hcipher.opens _ _ _ _ _).mp hdek).1 ?_,
    hsealed.only _ ((hcipher.opens _ _ _ _ _).mp hbody).1 ?_⟩
  · exact concerns_slot ephemeralPublicKey nonce slot.tag slotCount slot.index
  · exact concerns_body ephemeralPublicKey nonce parsed.bodyNonce slotCount

theorem decryptMultiRecipientMail_sealed {made : List Sealing} {plaintext : Bytes}
    (hcipher : IdealCipher c sealed) (hsealed : SealedFor sealed ephemeralPublicKey nonce made)
    (h : decryptMultiRecipientMail c sharedSecret ephemeralPublicKey nonce ciphertext =
      .ok plaintext) :
    ∃ (slotCount : Nat) (slot : Slot) (bodyNonce dek : Bytes),
      ⟨(deriveMultiRecipientMaterial c sharedSecret nonce slotCount).wrappingKey,
        multiSlotNonce nonce slot.index,
        multiSlotAad (multiAadPrefix ephemeralPublicKey nonce slotCount) slot.index slot.tag,
        dek⟩ ∈ made ∧ ⟨dek, bodyNonce,
        multiBodyAad (multiAadPrefix ephemeralPublicKey nonce slotCount) bodyNonce,
        plaintext⟩ ∈ made := by
  simp only [decryptMultiRecipientMail, bind_ok] at h
  obtain ⟨parsed, -, hopen⟩ := h
  obtain ⟨slot, -, hslot⟩ := openSlots_ok hopen
  obtain ⟨dek, hwrapped, hbody⟩ := openSlot_sealed hcipher hsealed hslot
  exact ⟨parsed.slotCount, slot, parsed.bodyNonce, dek, hwrapped, hbody⟩

theorem decryptLegacyMail_ok {plaintext : Bytes}
    (h : decryptLegacyMail c sharedSecret ephemeralPublicKey nonce record ciphertext =
      .ok plaintext) :
    c.aesGcmDecrypt (mailAesKey c sharedSecret) nonce (mailAad ephemeralPublicKey nonce)
      ciphertext = .ok plaintext := by
  simp only [decryptLegacyMail, bind_ok] at h
  exact h.choose_spec.2

/-- A ciphertext opens in one of the two ways. -/
theorem decryptCiphertext_ok {plaintext : Bytes}
    (h : decryptCiphertext c sharedSecret ephemeralPublicKey nonce record ciphertext =
      .ok plaintext) :
    decryptMultiRecipientMail c sharedSecret ephemeralPublicKey nonce ciphertext = .ok plaintext ∨
      decryptLegacyMail c sharedSecret ephemeralPublicKey nonce record ciphertext =
        .ok plaintext := by
  unfold decryptCiphertext at h
  split at h
  · split at h
    · rename_i opened hmulti
      cases h
      exact .inl hmulti
    · split at h
      · rename_i opened hlegacy
        cases h
        exact .inr hlegacy
      · cases h
  · exact .inr h

/-- A message to one recipient has no slots that open, whatever it looks like. -/
theorem decryptMultiRecipientMail_single {sharedSecret' plaintext opened : Bytes}
    (hcipher : IdealCipher c sealed) (hsealed : SealedFor sealed ephemeralPublicKey nonce
      [mailSealing c sharedSecret ephemeralPublicKey nonce plaintext]) :
    decryptMultiRecipientMail c sharedSecret' ephemeralPublicKey nonce ciphertext ≠ .ok opened := by
  intro h
  obtain ⟨slotCount, slot, bodyNonce, dek, hslot, -⟩ :=
    decryptMultiRecipientMail_sealed hcipher hsealed h
  have haad := congrArg Sealing.aad (List.mem_singleton.mp hslot)
  unfold multiSlotAad at haad
  simp only [List.append_assoc] at haad
  exact mailAad_ne_multi _ _ _ _ _ _ haad.symm

theorem decryptCiphertext_single {plaintext : Bytes} (hcipher : IdealCipher c sealed)
    (hsealed : SealedFor sealed ephemeralPublicKey nonce
      [mailSealing c sharedSecret ephemeralPublicKey nonce plaintext])
    (htag : record.viewTag = mailViewTag c sharedSecret) :
    decryptCiphertext c sharedSecret ephemeralPublicKey nonce record
      (c.aesGcmEncrypt (mailSealing c sharedSecret ephemeralPublicKey nonce plaintext)) =
      .ok plaintext := by
  have hlegacy : decryptLegacyMail c sharedSecret ephemeralPublicKey nonce record
      (c.aesGcmEncrypt (mailSealing c sharedSecret ephemeralPublicKey nonce plaintext)) =
      .ok plaintext := by
    unfold decryptLegacyMail
    rw [throwIf_neg (not_not.mpr htag), ok_bind]
    exact (hcipher.opens _ _ _ _ _).mpr ⟨hsealed.included _ (List.mem_singleton_self _), rfl⟩
  unfold decryptCiphertext
  split
  · split
    · rename_i opened hmulti
      exact absurd hmulti (decryptMultiRecipientMail_single hcipher hsealed)
    · rw [hlegacy]
  · exact hlegacy

/-- Nobody else opens a message to one recipient. -/
theorem decryptCiphertext_single_ok {sharedSecret' plaintext plaintext' : Bytes}
    (hhkdf : Separates c secrets) (hcipher : IdealCipher c sealed)
    (hsealed : SealedFor sealed ephemeralPublicKey nonce
      [mailSealing c sharedSecret ephemeralPublicKey nonce plaintext])
    (hsecret : sharedSecret ∈ secrets) (hsecret' : sharedSecret' ∈ secrets)
    (h : decryptCiphertext c sharedSecret' ephemeralPublicKey nonce record ciphertext =
      .ok plaintext') : sharedSecret' = sharedSecret := by
  rcases decryptCiphertext_ok h with hmulti | hlegacy
  · exact absurd hmulti (decryptMultiRecipientMail_single hcipher hsealed)
  · have hopen := (hcipher.opens _ _ _ _ _).mp (decryptLegacyMail_ok hlegacy)
    have hmade := hsealed.only _ hopen.1 (.inl rfl)
    have hkey : mailAesKey c sharedSecret' = mailAesKey c sharedSecret :=
      congrArg Sealing.rawKey (List.mem_singleton.mp hmade)
    exact hhkdf _ hsecret' _ hsecret _ _ _ (by decide) (Vector.toList_inj.mp hkey)

def multiSealings (r : Randomness) (aadPrefix plaintext : Bytes)
    (materials : List MultiRecipientMaterial) : List Sealing :=
  bodySealing r aadPrefix plaintext ::
    materials.zipIdx.map fun (material, index) => slotSealing r aadPrefix material index

theorem mem_multiSealings_slot {r : Randomness} {aadPrefix plaintext slotTag : Bytes}
    {materials : List MultiRecipientMaterial} {slotIndex : Nat}
    (hx : x ∈ multiSealings r aadPrefix plaintext materials)
    (haad : x.aad = multiSlotAad aadPrefix slotIndex slotTag) :
    ∃ m ∈ materials, x.rawKey = m.wrappingKey := by
  rcases List.mem_cons.mp hx with rfl | hslot
  · exact (multiBodyAad_ne_slot _ _ _ _ haad).elim
  · obtain ⟨⟨m, index⟩, hentry, rfl⟩ := List.mem_map.mp hslot
    exact ⟨m, List.fst_mem_of_mem_zipIdx hentry, rfl⟩

theorem mem_multiSealings_body {r : Randomness} {aadPrefix plaintext bodyNonce : Bytes}
    {materials : List MultiRecipientMaterial}
    (hx : x ∈ multiSealings r aadPrefix plaintext materials)
    (haad : x.aad = multiBodyAad aadPrefix bodyNonce) : x.plaintext = plaintext := by
  rcases List.mem_cons.mp hx with rfl | hslot
  · rfl
  · obtain ⟨⟨m, index⟩, hentry, rfl⟩ := List.mem_map.mp hslot
    exact (multiBodyAad_ne_slot _ _ _ _ haad.symm).elim

theorem mem_multiSealings_prefix {r : Randomness} {aadPrefix plaintext : Bytes}
    {materials : List MultiRecipientMaterial}
    (hx : x ∈ multiSealings r aadPrefix plaintext materials) :
    ∃ rest, x.aad = aadPrefix ++ rest := by
  rcases List.mem_cons.mp hx with rfl | hslot
  · exact ⟨_, List.append_assoc ..⟩
  · obtain ⟨⟨m, index⟩, -, rfl⟩ := List.mem_map.mp hslot
    refine ⟨multiSlotAadLabel ++ ([Fin.ofNat 256 index] ++ m.slotTag), ?_⟩
    change multiSlotAad aadPrefix index m.slotTag = _
    unfold multiSlotAad
    simp only [List.append_assoc]

variable {r : Randomness} {plaintext : Bytes} {materials : List MultiRecipientMaterial}

/-- Who opens a message to several recipients has the key of a slot, and reads the message. -/
theorem decryptCiphertext_multi_ok {plaintext' : Bytes} (hcipher : IdealCipher c sealed)
    (hsealed : SealedFor sealed ephemeralPublicKey nonce
      (multiSealings r (multiAadPrefix ephemeralPublicKey nonce materials.length) plaintext
        materials)) (htags : ∀ m ∈ materials, m.slotTag.length = multiSlotTagBytes)
    (htwo : 2 ≤ materials.length) (hmany : materials.length ≤ maxMultiRecipients)
    (h : decryptCiphertext c sharedSecret ephemeralPublicKey nonce record
      (multiWireBytes c r (multiAadPrefix ephemeralPublicKey nonce materials.length) materials
        plaintext) = .ok plaintext') :
    plaintext' = plaintext ∧ ∃ m ∈ materials, m.wrappingKey =
      (deriveMultiRecipientMaterial c sharedSecret nonce materials.length).wrappingKey := by
  rcases decryptCiphertext_ok h with hmulti | hlegacy
  · unfold decryptMultiRecipientMail at hmulti
    rw [parseMultiRecipientCiphertext_wire hcipher.length htags htwo hmany, ok_bind] at hmulti
    obtain ⟨slot, -, hslot⟩ := openSlots_ok hmulti
    obtain ⟨dek, hwrapped, hbody⟩ := openSlot_sealed hcipher hsealed hslot
    obtain ⟨m, hm, hkey⟩ := mem_multiSealings_slot hwrapped rfl
    exact ⟨mem_multiSealings_body hbody rfl, m, hm, hkey.symm⟩
  · have hopen := (hcipher.opens _ _ _ _ _).mp (decryptLegacyMail_ok hlegacy)
    obtain ⟨rest, haad⟩ := mem_multiSealings_prefix (hsealed.only _ hopen.1 (.inl rfl))
    exact (mailAad_ne_multi _ _ _ _ _ _ haad).elim

theorem openSlot_slotAt (materials : List MultiRecipientMaterial) {aadPrefix : Bytes} {index : Nat}
    (hcipher : IdealCipher c sealed) (hslot : slotSealing r aadPrefix material index ∈ sealed)
    (hbody : bodySealing r aadPrefix plaintext ∈ sealed) :
    openSlot c material r.nonce.toList aadPrefix
      ⟨materials.length, materials.zipIdx.map (slotAt c r aadPrefix), r.bodyNonce.toList,
        c.aesGcmEncrypt (bodySealing r aadPrefix plaintext)⟩
      (slotAt c r aadPrefix (material, index)) = .ok plaintext := by
  have hdek : assertLength r.dek.toList aesKeyBytes "unwrapped content key" = .ok () := by
    apply throwIf_neg
    rw [Vector.length_toList]
    exact not_not.mpr rfl
  simp only [openSlot, bind_ok]
  exact ⟨r.dek.toList, (hcipher.opens _ _ _ _ _).mpr ⟨hslot, rfl⟩, (), hdek,
    (hcipher.opens _ _ _ _ _).mpr ⟨hbody, rfl⟩⟩

/-- Whoever a slot was made for opens it. -/
theorem decryptCiphertext_multi (hcipher : IdealCipher c sealed)
    (hsealed : SealedFor sealed ephemeralPublicKey r.nonce.toList
      (multiSealings r (multiAadPrefix ephemeralPublicKey r.nonce.toList materials.length) plaintext
        materials)) (htags : ∀ m ∈ materials, m.slotTag.length = multiSlotTagBytes)
    (htwo : 2 ≤ materials.length) (hmany : materials.length ≤ maxMultiRecipients)
    (hmaterial : deriveMultiRecipientMaterial c sharedSecret r.nonce.toList materials.length ∈
      materials) (hview : record.viewTag = multiRecipientViewTag) :
    decryptCiphertext c sharedSecret ephemeralPublicKey r.nonce.toList record
      (multiWireBytes c r (multiAadPrefix ephemeralPublicKey r.nonce.toList materials.length)
        materials plaintext) = .ok plaintext := by
  obtain ⟨index, hindex, hm⟩ := List.getElem_of_mem hmaterial
  have hentry : (materials[index], index) ∈ materials.zipIdx := by
    rw [List.mk_mem_zipIdx_iff_getElem?]
    exact List.getElem?_eq_getElem hindex
  have hslot := hsealed.included _ (List.mem_cons_of_mem _ (List.mem_map_of_mem hentry))
  have hbody := hsealed.included _ List.mem_cons_self
  have hopen := openSlot_slotAt materials hcipher hslot hbody
  have hmulti : ∃ plaintext', decryptMultiRecipientMail c sharedSecret ephemeralPublicKey
      r.nonce.toList (multiWireBytes c r (multiAadPrefix ephemeralPublicKey r.nonce.toList
        materials.length) materials plaintext) = .ok plaintext' := by
    unfold decryptMultiRecipientMail
    rw [parseMultiRecipientCiphertext_wire hcipher.length htags htwo hmany, ok_bind, ← hm]
    exact openSlots_of_mem (List.mem_map_of_mem hentry) rfl hopen false
  obtain ⟨plaintext', hplaintext'⟩ := hmulti
  have hdecrypt : decryptCiphertext c sharedSecret ephemeralPublicKey r.nonce.toList record
      (multiWireBytes c r (multiAadPrefix ephemeralPublicKey r.nonce.toList materials.length)
        materials plaintext) = .ok plaintext' := by
    unfold decryptCiphertext
    rw [if_pos ⟨hview, hasMultiRecipientMarker_wire⟩, hplaintext']
  rw [hdecrypt, (decryptCiphertext_multi_ok hcipher hsealed htags htwo hmany hdecrypt).1]

end Opening

end App20.Mail
