import App20.Mail.Recipients

/-!
# Delivery of encrypted mail

What an encryption makes for its recipients, and what everyone reads in it.

* `encryptMailForRecipients_ok_iff`: when the encryption succeeds, and its record.
* `mail_delivered`: the recipients read the message, nobody else does, and its size is foreseen.
-/

namespace App20.Mail

open App20.Lib App20.Domain
open App20.Reservation (maxSafeInteger)
open Vector (length_toList toList_inj ofFn getElem_ofFn ext replicate)

variable {c : Primitives} {r : Randomness} {keys : List Bytes}

/-! ## What is made -/

def ephemeralKey (c : Primitives) (r : Randomness) : Bytes :=
  (c.getPublicKey r.ephemeralPrivateKey.toList).toList

/-- The secret that is shared with a recipient. -/
def sharedWith (c : Primitives) (r : Randomness) (publicKey : Bytes) : Bytes :=
  match c.getSharedSecret r.ephemeralPrivateKey.toList publicKey with
  | .ok sharedSecret => sharedSecret
  | .error _ => []

def materialsOf (c : Primitives) (r : Randomness) (keys : List Bytes) :
    List MultiRecipientMaterial :=
  sortMaterials (keys.map fun key =>
    deriveMultiRecipientMaterial c (sharedWith c r key) r.nonce.toList keys.length)

def prefixOf (c : Primitives) (r : Randomness) (keys : List Bytes) : Bytes :=
  multiAadPrefix (ephemeralKey c r) r.nonce.toList keys.length

def sealings (c : Primitives) (r : Randomness) (keys : List Bytes) (plaintext : Bytes) :
    List Sealing :=
  match keys with
  | [key] => [mailSealing c (sharedWith c r key) (ephemeralKey c r) r.nonce.toList plaintext]
  | keys => multiSealings r (prefixOf c r keys) plaintext (materialsOf c r keys)

def wireOf (c : Primitives) (r : Randomness) (keys : List Bytes) (plaintext : Bytes) : Bytes :=
  match keys with
  | [key] => c.aesGcmEncrypt
      (mailSealing c (sharedWith c r key) (ephemeralKey c r) r.nonce.toList plaintext)
  | keys => multiWireBytes c r (prefixOf c r keys) (materialsOf c r keys) plaintext

def viewTagOf (c : Primitives) (r : Randomness) (keys : List Bytes) : Nat :=
  match keys with
  | [key] => mailViewTag c (sharedWith c r key)
  | _ => multiRecipientViewTag

section Several

variable {plaintext : Bytes}

theorem wireOf_several (h : keys.length ≠ 1) : wireOf c r keys plaintext =
    multiWireBytes c r (prefixOf c r keys) (materialsOf c r keys) plaintext := by
  unfold wireOf
  split
  · exact absurd rfl h
  · rfl

theorem sealings_several (h : keys.length ≠ 1) : sealings c r keys plaintext =
    multiSealings r (prefixOf c r keys) plaintext (materialsOf c r keys) := by
  unfold sealings
  split
  · exact absurd rfl h
  · rfl

theorem viewTagOf_several (h : keys.length ≠ 1) : viewTagOf c r keys = multiRecipientViewTag := by
  unfold viewTagOf
  split
  · exact absurd rfl h
  · rfl

end Several

def recordWith (ephemeralPublicKey nonce : Bytes) (viewTag : Nat) (wire : Bytes) :
    EncryptedMailRecord :=
  ⟨limbs 16 ephemeralPublicKey, viewTag, limbs 6 nonce, packBytesToFelts wire⟩

def wireLength (recipientCount plaintextBytes : Nat) : Nat :=
  (if recipientCount = 1 then aesTagBytes
    else multiFixedBytes + recipientCount * multiRecipientSlotBytes) + plaintextBytes

theorem length_materialsOf : (materialsOf c r keys).length = keys.length := by
  unfold materialsOf sortMaterials
  rw [(List.mergeSort_perm _ _).length_eq, List.length_map]

theorem mem_materialsOf {m : MultiRecipientMaterial} : m ∈ materialsOf c r keys ↔ ∃ key ∈ keys,
      deriveMultiRecipientMaterial c (sharedWith c r key) r.nonce.toList keys.length = m := by
  unfold materialsOf sortMaterials
  rw [(List.mergeSort_perm _ _).mem_iff, List.mem_map]

theorem length_slotTag {m : MultiRecipientMaterial} (hm : m ∈ materialsOf c r keys) :
    m.slotTag.length = multiSlotTagBytes := by
  obtain ⟨key, -, rfl⟩ := mem_materialsOf.mp hm
  exact length_toList

theorem length_wireOf (hlength : ∀ x, (c.aesGcmEncrypt x).length = x.plaintext.length + aesTagBytes)
    (r : Randomness) (keys : List Bytes) (plaintext : Bytes) :
    (wireOf c r keys plaintext).length = wireLength keys.length plaintext.length := by
  unfold wireLength
  by_cases hone : keys.length = 1
  · obtain ⟨key, rfl⟩ := List.length_eq_one_iff.mp hone
    rw [if_pos hone, Nat.add_comm]
    exact hlength _
  · rw [wireOf_several hone, length_multiWireBytes hlength fun m hm => length_slotTag hm,
      length_materialsOf, if_neg hone]

/-! ## The checks -/

/-- Keys of honest recipients: public keys, each only once, whose secrets are among these. -/
structure Addressed (c : Primitives) (r : Randomness) (secrets : Set Bytes) (keys : List Bytes) :
    Prop where
  honest : ∀ key ∈ keys, ∃ k : Bytes, k.length = 32 ∧ (c.getPublicKey k).toList = key
  distinct : keys.Nodup
  nonempty : 1 ≤ keys.length
  bounded : keys.length ≤ maxMultiRecipients
  inPlay : ∀ key ∈ keys, sharedWith c r key ∈ secrets

variable {secrets : Set Bytes}

variable {key nonce : Bytes}

theorem Addressed.length (h : Addressed c r secrets keys) (hkey : key ∈ keys) :
    key.length = x25519KeyBytes := by
  obtain ⟨k, -, rfl⟩ := h.honest key hkey
  exact length_toList

section

variable (h : Addressed c r secrets keys) (hcurve : Agreement c)

include h hcurve

theorem Addressed.shared (hkey : key ∈ keys) :
    c.getSharedSecret r.ephemeralPrivateKey.toList key = .ok (sharedWith c r key) := by
  obtain ⟨k, hk, rfl⟩ := h.honest key hkey
  obtain ⟨s, hs, -⟩ := hcurve.agree r.ephemeralPrivateKey.toList k length_toList hk
  unfold sharedWith
  rw [hs]

/-- Different recipients share different secrets. -/
theorem Addressed.shared_inj {key' : Bytes} (hkey : key ∈ keys) (hkey' : key' ∈ keys)
    (heq : sharedWith c r key = sharedWith c r key') : key = key' := by
  have hs := h.shared hcurve hkey
  have hs' := h.shared hcurve hkey'
  rw [← heq] at hs'
  obtain ⟨k, -, rfl⟩ := h.honest key hkey
  obtain ⟨k', -, rfl⟩ := h.honest key' hkey'
  exact congrArg Vector.toList (hcurve.distinct _ _ _ _ hs hs')

theorem recipientMaterials_eq : recipientMaterials c r keys = .ok (materialsOf c r keys) := by
  have hmaterials : ∀ key ∈ keys, (do
      let sharedSecret ← c.getSharedSecret r.ephemeralPrivateKey.toList key
      return deriveMultiRecipientMaterial c sharedSecret r.nonce.toList keys.length :
        Except String MultiRecipientMaterial) =
      .ok (deriveMultiRecipientMaterial c (sharedWith c r key) r.nonce.toList keys.length) := by
    intro key hkey
    rw [h.shared hcurve hkey]
    rfl
  unfold recipientMaterials
  rw [mapM_eq_ok hmaterials, ok_bind]
  rfl

end

theorem tagCollision_eq_false {materials : List MultiRecipientMaterial}
    (h : (materials.map (·.slotTag)).Nodup) : tagCollision materials = false := by
  induction materials with
  | nil => rfl
  | cons first materials ih =>
    cases materials with
    | nil => rfl
    | cons second rest =>
      rw [List.map_cons, List.nodup_cons] at h
      unfold tagCollision
      rw [ih h.2, Bool.or_false, ← Bool.not_eq_true, equalBytes_iff]
      intro heq
      apply h.1
      rw [heq]
      exact List.mem_map_of_mem List.mem_cons_self

theorem tagCollision_materialsOf (h : Addressed c r secrets keys) (hcurve : Agreement c)
    (hhkdf : Separates c secrets) : tagCollision (materialsOf c r keys) = false := by
  apply tagCollision_eq_false
  unfold materialsOf sortMaterials
  rw [((List.mergeSort_perm _ _).map _).nodup_iff, List.map_map]
  refine List.Nodup.map_on (fun key hkey key' hkey' htag => ?_) h.distinct
  exact h.shared_inj hcurve hkey hkey' (hhkdf _ (h.inPlay key hkey) _ (h.inPlay key' hkey') _ _ _
    (by decide) (toList_inj.mp htag))

theorem fingerprints_nodup (h : Addressed c r secrets keys) : (keys.map bytesToFingerprint).Nodup :=
  List.Nodup.map_on (fun _ hkey _ hkey' heq =>
    (Intents.byteToHex_prefixCode.flatMap ((h.length hkey).trans (h.length hkey').symm)
      (congrArg (· ++ []) heq)).1) h.distinct

theorem assertLengths_ok (h : Addressed c r secrets keys) :
    (keys.zipIdx.mapM fun (publicKey, index) =>
      assertLength publicKey x25519KeyBytes ("recipient public key " ++ toString index)) =
      .ok (keys.zipIdx.map fun _ => ()) := by
  apply mapM_eq_ok
  intro ⟨key, index⟩ hentry
  exact throwIf_neg (not_not.mpr (h.length (List.fst_mem_of_mem_zipIdx hentry)))

/-! ## The records -/

theorem publicKeyToFelts_ok_iff {publicKey : Bytes} {pair : FeltPair} :
    publicKeyToFelts publicKey = .ok pair ↔ publicKey.length = 32 ∧ pair = limbs 16 publicKey := by
  unfold publicKeyToFelts assertLength
  simp only [bind_ok, throwIf_ok, exists_unit, not_not, pure_ok]

theorem nonceToFelts_ok_iff {pair : FeltPair} :
    nonceToFelts nonce = .ok pair ↔ nonce.length = 12 ∧ pair = limbs 6 nonce := by
  unfold nonceToFelts assertLength
  simp only [bind_ok, throwIf_ok, exists_unit, not_not, pure_ok]

theorem packed_fits {wire : Bytes} :
    ¬ maxCtFelts < (packBytesToFelts wire).length ↔ wire.length ≤ maxPackedBytes := by
  rw [not_lt, length_packBytesToFelts, fits_iff]

theorem mailRecord_ok_iff {sharedSecret ephemeralPublicKey plaintext : Bytes}
    {record : EncryptedMailRecord} :
    mailRecord c sharedSecret ephemeralPublicKey nonce plaintext = .ok record ↔
      (c.aesGcmEncrypt (mailSealing c sharedSecret ephemeralPublicKey nonce plaintext)).length ≤
        maxPackedBytes ∧ ephemeralPublicKey.length = 32 ∧ nonce.length = 12 ∧
      record = recordWith ephemeralPublicKey nonce (mailViewTag c sharedSecret)
        (c.aesGcmEncrypt (mailSealing c sharedSecret ephemeralPublicKey nonce plaintext)) := by
  unfold mailRecord
  simp only [bind_ok, throwIf_ok, exists_unit, pure_ok, packed_fits,
    publicKeyToFelts_ok_iff, nonceToFelts_ok_iff]
  constructor
  · rintro ⟨hfits, _, ⟨hkey, rfl⟩, _, ⟨hnonce, rfl⟩, rfl⟩
    exact ⟨hfits, hkey, hnonce, rfl⟩
  · rintro ⟨hfits, hkey, hnonce, rfl⟩
    exact ⟨hfits, _, ⟨hkey, rfl⟩, _, ⟨hnonce, rfl⟩, rfl⟩

theorem encryptMail_eq {plaintext : Plaintext} (h : Addressed c r secrets keys)
    (hcurve : Agreement c) (hkey : key ∈ keys) : encryptMail c r key plaintext =
      mailRecord c (sharedWith c r key) (ephemeralKey c r) r.nonce.toList
        plaintext.plaintextBytes := by
  unfold encryptMail assertLength
  rw [throwIf_neg (not_not.mpr (h.length hkey)), ok_bind]
  simp only
  rw [h.shared hcurve hkey, ok_bind]
  rfl

/-- The encryption succeeds when the bytes fit, and makes this record. -/
theorem encryptMailForRecipients_ok_iff {sealed : Set Sealing} {plaintext : Plaintext}
    {record : EncryptedMailRecord} (h : Addressed c r secrets keys) (hcurve : Agreement c)
    (hhkdf : Separates c secrets) (hcipher : IdealCipher c sealed) :
    encryptMailForRecipients c r keys plaintext = .ok record ↔
      wireLength keys.length plaintext.plaintextBytes.length ≤ maxPackedBytes ∧
      record = recordWith (ephemeralKey c r) r.nonce.toList (viewTagOf c r keys)
        (wireOf c r keys plaintext.plaintextBytes) := by
  have hwire := length_wireOf hcipher.length r keys plaintext.plaintextBytes
  have hephemeral : (ephemeralKey c r).length = 32 := length_toList
  have hnonce : r.nonce.toList.length = 12 := length_toList
  have hnonempty := h.nonempty
  unfold encryptMailForRecipients
  rw [throwIf_neg (by omega), ok_bind, throwIf_neg (not_lt.mpr h.bounded), ok_bind,
    assertLengths_ok h, ok_bind, throwIf_neg (not_not.mpr (fingerprints_nodup h)), ok_bind]
  split
  · rename_i key
    have hkey : key ∈ [key] := List.mem_singleton_self key
    rw [encryptMail_eq h hcurve hkey, ← hwire]
    constructor
    · intro hok
      obtain ⟨hfits, -, -, heq⟩ := mailRecord_ok_iff.mp hok
      exact ⟨hfits, heq⟩
    · rintro ⟨hfits, heq⟩
      exact mailRecord_ok_iff.mpr ⟨hfits, hephemeral, hnonce, heq⟩
  · rename_i hseveral
    have hcount : keys.length ≠ 1 := by
      intro hone
      obtain ⟨key, rfl⟩ := List.length_eq_one_iff.mp hone
      exact hseveral key rfl
    rw [wireOf_several hcount] at hwire ⊢
    rw [viewTagOf_several hcount]
    have htotal : wireLength keys.length plaintext.plaintextBytes.length = multiFixedBytes +
        keys.length * multiRecipientSlotBytes + plaintext.plaintextBytes.length := by
      unfold wireLength
      rw [if_neg hcount]
    have hcollision : ¬ tagCollision (materialsOf c r keys) = true := by
      rw [tagCollision_materialsOf h hcurve hhkdf]
      decide
    simp only [bind_ok, throwIf_ok, exists_unit, pure_ok,
      publicKeyToFelts_ok_iff, nonceToFelts_ok_iff, recipientMaterials_eq h hcurve,
      Except.ok.injEq, exists_eq_left', length_materialsOf, not_lt, ← htotal]
    constructor
    · rintro ⟨hfits, -, -, _, ⟨-, rfl⟩, _, ⟨-, rfl⟩, rfl⟩
      exact ⟨hfits, rfl⟩
    · rintro ⟨hfits, rfl⟩
      have hfelts := not_lt.mp (packed_fits.mpr (hwire.trans_le hfits))
      exact ⟨hfits, hcollision, hfelts, _, ⟨hephemeral, rfl⟩, _, ⟨hnonce, rfl⟩, rfl⟩

/-! ## The projection -/

section

variable {plaintextBytes recipientCount : Nat} (hnonempty : 1 ≤ recipientCount)
  (hbounded : recipientCount ≤ maxMultiRecipients)

include hnonempty hbounded

theorem projectEncryptedMailSize_ok_iff {projection : EncryptedMailSizeProjection} :
    projectEncryptedMailSize plaintextBytes recipientCount = .ok projection ↔
      (plaintextBytes : Int) ≤ maxSafeInteger ∧ projection =
        ⟨plaintextBytes, recipientCount, wireLength recipientCount plaintextBytes,
          1 + blockCount feltPayloadBytes (wireLength recipientCount plaintextBytes), maxCtFelts,
          maxPackedBytes - wireLength recipientCount 0,
          decide (wireLength recipientCount plaintextBytes ≤ maxPackedBytes)⟩ := by
  have hfixed : (if (recipientCount : Int) = 1 then aesTagBytes
      else multiFixedBytes + recipientCount * multiRecipientSlotBytes) =
      wireLength recipientCount 0 := by
    unfold wireLength
    rw [Nat.add_zero]
    exact if_congr Nat.cast_eq_one rfl rfl
  have htotal : wireLength recipientCount 0 + plaintextBytes =
      wireLength recipientCount plaintextBytes := by
    unfold wireLength
    rw [Nat.add_zero]
  unfold projectEncryptedMailSize
  simp only [bind_ok, throwIf_ok, exists_unit, pure_ok, hfixed, Int.toNat_natCast, htotal, fits_iff]
  constructor
  · rintro ⟨hsafe, -, rfl⟩
    exact ⟨by omega, rfl⟩
  · rintro ⟨hsafe, rfl⟩
    exact ⟨by omega, by omega, rfl⟩

theorem projection_fits_iff :
    (∃ p, projectEncryptedMailSize plaintextBytes recipientCount = .ok p ∧ p.fits = true) ↔
      wireLength recipientCount plaintextBytes ≤ maxPackedBytes := by
  constructor
  · rintro ⟨p, hp, hfits⟩
    obtain ⟨-, rfl⟩ := (projectEncryptedMailSize_ok_iff hnonempty hbounded).mp hp
    exact of_decide_eq_true hfits
  · intro hfits
    have hsafe : (plaintextBytes : Int) ≤ maxSafeInteger := by
      unfold wireLength maxPackedBytes maxCtFelts feltPayloadBytes at hfits
      unfold maxSafeInteger
      omega
    exact ⟨_, (projectEncryptedMailSize_ok_iff hnonempty hbounded).mpr ⟨hsafe, rfl⟩,
      decide_eq_true hfits⟩

end

/-! ## Reading -/

theorem decryptMail_ok_iff {privateKey ephemeralPublicKey wire plaintext : Bytes} {viewTag : Nat}
    (hkey : ephemeralPublicKey.length = 32) (hnonce : nonce.length = 12)
    (hwire : wire.length ≤ maxPackedBytes) :
    decryptMail c privateKey (recordWith ephemeralPublicKey nonce viewTag wire) = .ok plaintext ↔
      privateKey.length = 32 ∧ ∃ s, c.getSharedSecret privateKey ephemeralPublicKey = .ok s ∧
        decryptCiphertext c s ephemeralPublicKey nonce
          (recordWith ephemeralPublicKey nonce viewTag wire) wire = .ok plaintext := by
  have hpublic := publicKeyFromFelts_limbs hkey
  have hpair := nonceFromFelts_limbs hnonce
  have hunpack := unpack_pack hwire
  unfold decryptMail assertLength
  simp only [bind_ok, throwIf_ok, exists_unit, not_not]
  apply and_congr_right
  intro hprivate
  constructor
  · rintro ⟨_, hE, _, hn, h⟩
    cases hpublic.symm.trans hE
    cases hpair.symm.trans hn
    split at h
    · simp only [bind_ok] at h
      obtain ⟨_, hw, s, hs, h⟩ := h
      cases hunpack.symm.trans hw
      exact ⟨s, hs, h⟩
    · simp only [bind_ok] at h
      obtain ⟨s, hs, _, hw, h⟩ := h
      cases hunpack.symm.trans hw
      exact ⟨s, hs, h⟩
  · rintro ⟨s, hs, h⟩
    refine ⟨_, hpublic, _, hpair, ?_⟩
    split
    · simp only [bind_ok]
      exact ⟨_, hunpack, s, hs, h⟩
    · simp only [bind_ok]
      exact ⟨s, hs, _, hunpack, h⟩

section Reading

variable {sealed : Set Sealing} {plaintext : Bytes} {record : EncryptedMailRecord}

/-- A recipient opens what was made for them. -/
theorem wireOf_opens (h : Addressed c r secrets keys) (hcipher : IdealCipher c sealed)
    (hsealed : SealedFor sealed (ephemeralKey c r) r.nonce.toList (sealings c r keys plaintext))
    (hview : record.viewTag = viewTagOf c r keys) (hkey : key ∈ keys) :
    decryptCiphertext c (sharedWith c r key) (ephemeralKey c r) r.nonce.toList record
      (wireOf c r keys plaintext) = .ok plaintext := by
  by_cases hone : keys.length = 1
  · obtain ⟨key, rfl⟩ := List.length_eq_one_iff.mp hone
    cases List.mem_singleton.mp hkey
    exact decryptCiphertext_single hcipher hsealed hview
  · have hlength : (materialsOf c r keys).length = keys.length := length_materialsOf
    have hnonempty := h.nonempty
    rw [sealings_several hone] at hsealed
    rw [wireOf_several hone]
    unfold prefixOf at hsealed ⊢
    rw [← hlength] at hsealed ⊢
    refine decryptCiphertext_multi hcipher hsealed (fun m hm => length_slotTag hm) (by omega)
      (hlength.trans_le h.bounded) ?_ (hview.trans (viewTagOf_several hone))
    rw [hlength]
    exact mem_materialsOf.mpr ⟨key, hkey, rfl⟩

theorem wireOf_opens_only (h : Addressed c r secrets keys) (hhkdf : Separates c secrets)
    (hcipher : IdealCipher c sealed)
    (hsealed : SealedFor sealed (ephemeralKey c r) r.nonce.toList (sealings c r keys plaintext))
    {s opened : Bytes} (hs : s ∈ secrets)
    (hopen : decryptCiphertext c s (ephemeralKey c r) r.nonce.toList record
      (wireOf c r keys plaintext) = .ok opened) : ∃ key ∈ keys, s = sharedWith c r key := by
  by_cases hone : keys.length = 1
  · obtain ⟨key, rfl⟩ := List.length_eq_one_iff.mp hone
    have hkey := List.mem_singleton_self key
    exact ⟨key, hkey, decryptCiphertext_single_ok hhkdf hcipher hsealed (h.inPlay key hkey) hs hopen⟩
  · have hlength : (materialsOf c r keys).length = keys.length := length_materialsOf
    have hnonempty := h.nonempty
    rw [sealings_several hone] at hsealed
    rw [wireOf_several hone] at hopen
    unfold prefixOf at hsealed hopen
    rw [← hlength] at hsealed hopen
    obtain ⟨-, m, hm, hwrap⟩ := decryptCiphertext_multi_ok hcipher hsealed
      (fun m hm => length_slotTag hm) (by omega) (hlength.trans_le h.bounded) hopen
    obtain ⟨key, hkey, rfl⟩ := mem_materialsOf.mp hm
    rw [hlength] at hwrap
    exact ⟨key, hkey, hhkdf _ hs _ (h.inPlay key hkey) _ _ _ (by decide) (toList_inj.mp hwrap.symm)⟩

end Reading

theorem mail_delivered {sealed : Set Sealing} (hcurve : Agreement c) (hhkdf : Separates c secrets)
    (hcipher : IdealCipher c sealed) :
    (∀ (r : Randomness) (keys : List Bytes) (plaintext : Plaintext), Addressed c r secrets keys →
      SealedFor sealed (ephemeralKey c r) r.nonce.toList
        (sealings c r keys plaintext.plaintextBytes) →
      ((∃ p, projectEncryptedMailSize plaintext.plaintextBytes.length keys.length = .ok p ∧
          p.fits = true) ↔ ∃ record, encryptMailForRecipients c r keys plaintext = .ok record) ∧
      ∀ record, encryptMailForRecipients c r keys plaintext = .ok record →
        (∃ wire p, unpackFeltsToBytes record.ciphertextFelts = .ok wire ∧
          projectEncryptedMailSize plaintext.plaintextBytes.length keys.length = .ok p ∧
          p.ciphertextBytes = wire.length ∧ p.ciphertextFelts = record.ciphertextFelts.length) ∧
        (∀ k : Bytes, k.length = 32 → (c.getPublicKey k).toList ∈ keys →
          decryptMail c k record = .ok plaintext.plaintextBytes) ∧
        ∀ k : Bytes, (c.getPublicKey k).toList ∉ keys →
          (∀ s, c.getSharedSecret k (ephemeralKey c r) = .ok s → s ∈ secrets) →
          ∀ opened, decryptMail c k record ≠ .ok opened) ∧
    ∀ (k ephemeralPublicKey nonce s plaintext : Bytes) (record : EncryptedMailRecord),
      k.length = 32 → c.getSharedSecret k ephemeralPublicKey = .ok s →
      SealedFor sealed ephemeralPublicKey nonce
        [mailSealing c s ephemeralPublicKey nonce plaintext] →
      mailRecord c s ephemeralPublicKey nonce plaintext = .ok record →
      decryptMail c k record = .ok plaintext := by
  refine ⟨fun r keys plaintext h hsealed => ⟨?_, fun record hrecord => ?_⟩, ?_⟩
  · rw [projection_fits_iff h.nonempty h.bounded]
    constructor
    · intro hfits
      exact ⟨_, (encryptMailForRecipients_ok_iff h hcurve hhkdf hcipher).mpr ⟨hfits, rfl⟩⟩
    · rintro ⟨record, hrecord⟩
      exact ((encryptMailForRecipients_ok_iff h hcurve hhkdf hcipher).mp hrecord).1
  · obtain ⟨hfits, rfl⟩ := (encryptMailForRecipients_ok_iff h hcurve hhkdf hcipher).mp hrecord
    have hlength := length_wireOf hcipher.length r keys plaintext.plaintextBytes
    have hwire := hlength.trans_le hfits
    have hE : (ephemeralKey c r).length = 32 := length_toList
    have hn : r.nonce.toList.length = 12 := length_toList
    obtain ⟨p, hp, -⟩ := (projection_fits_iff h.nonempty h.bounded).mpr hfits
    obtain ⟨-, rfl⟩ := (projectEncryptedMailSize_ok_iff h.nonempty h.bounded).mp hp
    refine ⟨⟨_, _, unpack_pack hwire, hp, hlength.symm, ?_⟩, fun k hk hkey => ?_, ?_⟩
    · change _ = (packBytesToFelts _).length
      rw [length_packBytesToFelts, hlength]
    · obtain ⟨s, hs, hs'⟩ := hcurve.agree r.ephemeralPrivateKey.toList k length_toList hk
      have hshared := h.shared hcurve hkey
      rw [hs] at hshared
      cases hshared
      exact (decryptMail_ok_iff hE hn hwire).mpr
        ⟨hk, _, hs', wireOf_opens h hcipher hsealed rfl hkey⟩
    · intro k hstranger hplay opened hopened
      obtain ⟨hk, s, hs, hopen⟩ := (decryptMail_ok_iff hE hn hwire).mp hopened
      obtain ⟨key, hkey, rfl⟩ := wireOf_opens_only h hhkdf hcipher hsealed (hplay s hs) hopen
      obtain ⟨s', hs', hs''⟩ := hcurve.agree r.ephemeralPrivateKey.toList k length_toList hk
      cases hs''.symm.trans hs
      have hshared := h.shared hcurve hkey
      obtain ⟨k', -, rfl⟩ := h.honest key hkey
      apply hstranger
      rw [hcurve.distinct _ _ _ _ hs' hshared]
      exact hkey
  · intro k ephemeralPublicKey nonce s plaintext record hk hs hsealed hrecord
    obtain ⟨hwire, hE, hn, rfl⟩ := mailRecord_ok_iff.mp hrecord
    exact (decryptMail_ok_iff hE hn hwire).mpr
      ⟨hk, s, hs, decryptCiphertext_single hcipher hsealed rfl⟩

/-! ## A message to two recipients -/

/-- Public keys are private keys, secrets are sums, keys are the first bytes of secrets, and a
ciphertext opens when it is in the log. -/
def plainPrimitives (log : List Sealing) : Primitives where
  getPublicKey := fun k => ofFn fun i => k.getD i 0
  getSharedSecret := fun a p => .ok ((List.range 32).map fun i => a.getD i 0 + p.getD i 0)
  hkdf := fun s _ _ _ => ofFn fun i => s.getD i 0
  aesGcmEncrypt := fun x => x.plaintext ++ List.replicate aesTagBytes 0
  aesGcmDecrypt := fun rawKey nonce aad ciphertext =>
    let plaintext := ciphertext.take (ciphertext.length - aesTagBytes)
    if ⟨rawKey, nonce, aad, plaintext⟩ ∈ log ∧
      ciphertext = plaintext ++ List.replicate aesTagBytes 0 then .ok plaintext
    else .error "The operation failed."

theorem plainPrimitives_ideal (log : List Sealing) :
    IdealCipher (plainPrimitives log) {x | x ∈ log} where
  length := fun x => by
    change (x.plaintext ++ List.replicate aesTagBytes 0).length = _
    rw [List.length_append, List.length_replicate]
  opens := fun rawKey nonce aad ciphertext plaintext => by
    change (if _ then _ else _) = _ ↔ _ ∧ ciphertext = plaintext ++ List.replicate aesTagBytes 0
    constructor
    · intro h
      split at h
      · rename_i hlog
        cases h
        exact hlog
      · cases h
    · rintro ⟨hlog, rfl⟩
      rw [List.length_append, List.length_replicate, Nat.add_sub_cancel, List.take_left,
        if_pos ⟨hlog, rfl⟩]

theorem plainPrimitives_agreement (log : List Sealing) : Agreement (plainPrimitives log) := by
  have hbyte : ∀ (k : Bytes) (i : Nat), i < 32 →
      ((plainPrimitives log).getPublicKey k).toList.getD i 0 = k.getD i 0 := by
    intro k i hi
    change (ofFn fun i : Fin 32 => k.getD i 0).toList.getD i 0 = _
    rw [List.getD_eq_getElem _ _ (by rwa [length_toList]), Vector.getElem_toList, getElem_ofFn]
  constructor
  · intro a b ha hb
    refine ⟨_, rfl, congrArg Except.ok (List.map_congr_left fun i hi => ?_)⟩
    rw [hbyte a i (List.mem_range.mp hi), hbyte b i (List.mem_range.mp hi)]
    apply Fin.ext
    rw [Fin.val_add, Fin.val_add, Nat.add_comm]
  · intro a b b' s h h'
    have hsame := List.map_inj_left.mp (Except.ok.inj (h.trans h'.symm))
    apply ext
    intro i hi
    have hi' := hsame i (List.mem_range.mpr hi)
    rw [hbyte b i hi, hbyte b' i hi] at hi'
    change (ofFn fun i : Fin 32 => b.getD i 0)[i] = (ofFn fun i => b'.getD i 0)[i]
    rw [getElem_ofFn, getElem_ofFn]
    have hvalue := congrArg Fin.val hi'
    rw [Fin.val_add, Fin.val_add] at hvalue
    apply Fin.ext
    change (b.getD i 0).val = (b'.getD i 0).val
    omega

def plainRandomness : Randomness where
  ephemeralPrivateKey := replicate 32 9
  nonce := replicate 12 3
  bodyNonce := replicate 12 4
  dek := replicate 32 5

def plainKeys : List Bytes := [List.replicate 32 1, List.replicate 32 2]

def plainLog : List Sealing := sealings (plainPrimitives []) plainRandomness plainKeys [7, 8]

theorem plainKeys_addressed : Addressed (plainPrimitives plainLog) plainRandomness
    {s | s ∈ [List.replicate 32 10, List.replicate 32 11]} plainKeys where
  honest := fun key hkey => ⟨key, by revert key; decide, by revert key; decide +kernel⟩
  distinct := by decide
  nonempty := by decide
  bounded := by decide
  inPlay := by
    change ∀ key ∈ plainKeys, _ ∈ [List.replicate 32 10, List.replicate 32 11]
    decide +kernel

theorem plainPrimitives_separates (log : List Sealing) : Separates (plainPrimitives log)
    {s | s ∈ [List.replicate 32 10, List.replicate 32 11]} := by
  intro s hs s' hs' salt info length hlength h
  have hfirst : s.getD 0 0 = s'.getD 0 0 := by
    have hpos : 0 < length := by omega
    have hbyte : (ofFn fun i : Fin length => s.getD i 0)[0] =
        (ofFn fun i : Fin length => s'.getD i 0)[0] := congrArg (fun v => v[0]) h
    rwa [getElem_ofFn, getElem_ofFn] at hbyte
  have hsecrets : ∀ s ∈ [List.replicate 32 10, List.replicate 32 11],
      ∀ s' ∈ [List.replicate 32 10, List.replicate 32 11],
      s.getD 0 0 = s'.getD 0 (0 : Fin 256) → s = s' := by decide
  exact hsecrets s hs s' hs' hfirst

theorem mail_delivered_two :
    (∃ record, encryptMailForRecipients (plainPrimitives plainLog) plainRandomness plainKeys
      (.bytes [7, 8]) = .ok record) ∧
    ∀ record, encryptMailForRecipients (plainPrimitives plainLog) plainRandomness plainKeys
        (.bytes [7, 8]) = .ok record →
      ∀ k ∈ plainKeys, decryptMail (plainPrimitives plainLog) k record = .ok [7, 8] := by
  have hsealed : SealedFor {x | x ∈ plainLog}
      (ephemeralKey (plainPrimitives plainLog) plainRandomness) plainRandomness.nonce.toList
      (sealings (plainPrimitives plainLog) plainRandomness plainKeys [7, 8]) :=
    ⟨fun _ hx => hx, fun _ hx _ => hx⟩
  obtain ⟨hfits, hrecord⟩ := (mail_delivered (plainPrimitives_agreement plainLog)
    (plainPrimitives_separates plainLog) (plainPrimitives_ideal plainLog)).1 plainRandomness
    plainKeys (.bytes [7, 8]) plainKeys_addressed hsealed
  refine ⟨hfits.mp ?_, fun record hok k hk => (hrecord record hok).2.1 k ?_ ?_⟩
  · exact (projection_fits_iff (by decide) (by decide)).mpr (by decide)
  · revert k
    decide
  · revert k
    decide +kernel

end App20.Mail
