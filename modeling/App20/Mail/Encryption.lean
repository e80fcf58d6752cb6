import App20.Intents.Texts
import App20.Lib.Utf8
import App20.Mail.Felts

/-!
# Encrypted mail

A message to one recipient is sealed with a key that both sides agree on. A message to several is
sealed with a fresh key, which is wrapped for each of them in a slot; the slots are sorted by their
tags. Both kinds share one record, and a record that looks like the second kind but does not open
as such is tried as one of the first. The curve, the key derivation and the cipher are parameters.

* `projectEncryptedMailSize`: the size that a message will have.
* `encryptMailForRecipients`, `decryptMail`: the two directions.
-/

namespace App20.Mail

open App20.Lib App20.Domain
open App20.Reservation (maxSafeInteger)
open App20.Intents (bytesToHex)

/-! ## Sizes -/

def x25519KeyBytes : Nat := 32
def nonceBytes : Nat := 12
def aesKeyBytes : Nat := 32
def aesTagBytes : Nat := 16
def multiMarkerBytes : Nat := 3
def multiHeaderBytes : Nat := multiMarkerBytes + 2
def multiSlotTagBytes : Nat := 16
def wrappedDekBytes : Nat := aesKeyBytes + aesTagBytes
def multiRecipientSlotBytes : Nat := multiSlotTagBytes + wrappedDekBytes
def multiFixedBytes : Nat := multiHeaderBytes + nonceBytes + aesTagBytes
def multiRecipientViewTag : Nat := 0xff
def multiRecipientVersion : Fin 256 := 1
def maxMultiRecipients : Nat := (maxPackedBytes - multiFixedBytes) / multiRecipientSlotBytes

structure EncryptedMailSizeProjection where
  plaintextBytes : Nat
  recipientCount : Nat
  ciphertextBytes : Nat
  ciphertextFelts : Nat
  maxCiphertextFelts : Nat
  maxPlaintextBytes : Int
  fits : Bool

def projectEncryptedMailSize (plaintextBytes recipientCount : Int) :
    Except String EncryptedMailSizeProjection := do
  throwIf (maxSafeInteger < plaintextBytes ∨ plaintextBytes < 0)
    "Plaintext byte length must be a non-negative integer."
  throwIf (recipientCount < 1 ∨ maxMultiRecipients < recipientCount)
    ("Recipient count must be between 1 and " ++ toString maxMultiRecipients ++ ".")
  let fixedBytes := if recipientCount = 1 then aesTagBytes
    else multiFixedBytes + recipientCount.toNat * multiRecipientSlotBytes
  let ciphertextBytes := fixedBytes + plaintextBytes.toNat
  let ciphertextFelts := 1 + blockCount feltPayloadBytes ciphertextBytes
  return ⟨plaintextBytes.toNat, recipientCount.toNat, ciphertextBytes, ciphertextFelts, maxCtFelts,
    maxPackedBytes - fixedBytes, decide (ciphertextFelts ≤ maxCtFelts)⟩

/-! ## Bytes -/

/-- `textEncoder.encode` -/
def encodeText (s : Text) : Bytes := encodeUtf8 s

/-- The differences of all the bytes are collected. -/
def equalBytes (left right : Bytes) : Bool :=
  decide (left.length = right.length) &&
    (List.zipWith (fun a b => a.val ^^^ b.val) left right).foldl (· ||| ·) 0 == 0

def compareBytes : Bytes → Bytes → Int
  | a :: left, b :: right => if a = b then compareBytes left right else (a : Int) - (b : Int)
  | left, right => (left.length : Int) - (right.length : Int)

def bytesToFingerprint (bytes : Bytes) : Text := bytesToHex bytes

/-- Message bodies are texts or bytes. -/
inductive Plaintext where
  | text (s : Text)
  | bytes (b : Bytes)

def Plaintext.plaintextBytes : Plaintext → Bytes
  | text s => encodeText s
  | bytes b => b

def multiRecipientMarker : Bytes := encodeText "A20".toList
def mailKeyInfo : Bytes := encodeText "key".toList
def viewTagInfo : Bytes := encodeText "tag".toList
def aadDomain : Bytes := encodeText "app20/mail/aes-gcm/v1".toList
def multiWrapKeyInfo : Bytes := encodeText "app20/mail/multi/v1/wrap-key".toList
def multiSlotTagInfo : Bytes := encodeText "app20/mail/multi/v1/slot-tag".toList
def multiAadDomain : Bytes := encodeText "app20/mail/multi/aes-gcm".toList
def multiSlotAadLabel : Bytes := encodeText "slot".toList
def multiBodyAadLabel : Bytes := encodeText "body".toList

/-! ## Primitives -/

/-- What the cipher is given to encrypt. -/
structure Sealing where
  rawKey : Bytes
  nonce : Bytes
  aad : Bytes
  plaintext : Bytes
  deriving DecidableEq

/-- What is computed outside of this code. -/
structure Primitives where
  getPublicKey : Bytes → Vector (Fin 256) 32
  getSharedSecret : Bytes → Bytes → Except String Bytes
  hkdf : Bytes → Bytes → Bytes → (length : Nat) → Vector (Fin 256) length
  aesGcmEncrypt : Sealing → Bytes
  /-- Of a key, a nonce, additional data and a ciphertext. -/
  aesGcmDecrypt : Bytes → Bytes → Bytes → Bytes → Except String Bytes

/-- What one encryption draws. -/
structure Randomness where
  ephemeralPrivateKey : Vector (Fin 256) 32
  nonce : Vector (Fin 256) 12
  bodyNonce : Vector (Fin 256) 12
  dek : Vector (Fin 256) 32

structure EncryptedMailRecord where
  ephemeralPub : FeltPair
  viewTag : Nat
  nonce : FeltPair
  ciphertextFelts : List Text

variable (c : Primitives)

/-! ## Keys -/

/-- `deriveMailSecrets`: the key. -/
def mailAesKey (sharedSecret : Bytes) : Bytes :=
  (c.hkdf sharedSecret [] mailKeyInfo aesKeyBytes).toList

/-- `deriveMailSecrets`: the view tag. -/
def mailViewTag (sharedSecret : Bytes) : Nat := (c.hkdf sharedSecret [] viewTagInfo 1)[0].val

def mailAad (ephemeralPublicKey nonce : Bytes) : Bytes := aadDomain ++ ephemeralPublicKey ++ nonce

structure MultiRecipientMaterial where
  slotTag : Bytes
  wrappingKey : Bytes

def deriveMultiRecipientMaterial (sharedSecret nonce : Bytes) (slotCount : Nat) :
    MultiRecipientMaterial :=
  let context : Bytes := [multiRecipientVersion, Fin.ofNat 256 slotCount]
  { wrappingKey :=
      (c.hkdf sharedSecret nonce (multiWrapKeyInfo ++ context) aesKeyBytes).toList
    slotTag :=
      (c.hkdf sharedSecret nonce (multiSlotTagInfo ++ context) multiSlotTagBytes).toList }

def multiAadPrefix (ephemeralPublicKey nonce : Bytes) (slotCount : Nat) : Bytes :=
  multiAadDomain ++ multiRecipientMarker ++ [multiRecipientVersion, Fin.ofNat 256 slotCount] ++
    ephemeralPublicKey ++ nonce

def multiSlotAad (aadPrefix : Bytes) (slotIndex : Nat) (slotTag : Bytes) : Bytes :=
  aadPrefix ++ multiSlotAadLabel ++ [Fin.ofNat 256 slotIndex] ++ slotTag

def multiBodyAad (aadPrefix bodyNonce : Bytes) : Bytes :=
  aadPrefix ++ multiBodyAadLabel ++ bodyNonce

/-- The counter is mixed into the last four bytes. -/
def multiSlotNonce (nonce : Bytes) (slotIndex : Nat) : Bytes :=
  (List.range 4).foldl (fun derived byte => derived.modify (derived.length - 1 - byte) fun b =>
    b ^^^ Fin.ofNat 256 (((slotIndex + 1) >>> (byte * 8)) &&& 0xff)) nonce

/-! ## Encryption -/

/-- What is sealed in a message to one recipient. -/
def mailSealing (sharedSecret ephemeralPublicKey nonce plaintext : Bytes) : Sealing :=
  ⟨mailAesKey c sharedSecret, nonce, mailAad ephemeralPublicKey nonce, plaintext⟩

def mailRecord (sharedSecret ephemeralPublicKey nonce plaintext : Bytes) :
    Except String EncryptedMailRecord := do
  let ciphertext := c.aesGcmEncrypt (mailSealing c sharedSecret ephemeralPublicKey nonce plaintext)
  let ciphertextFelts := packBytesToFelts ciphertext
  throwIf (maxCtFelts < ciphertextFelts.length)
    ("Encrypted message exceeds " ++ toString maxCtFelts ++ " ciphertext felts.")
  let ephemeralPub ← publicKeyToFelts ephemeralPublicKey
  let noncePair ← nonceToFelts nonce
  return ⟨ephemeralPub, mailViewTag c sharedSecret, noncePair, ciphertextFelts⟩

def encryptMail (r : Randomness) (recipientPublicKey : Bytes) (plaintext : Plaintext) :
    Except String EncryptedMailRecord := do
  assertLength recipientPublicKey x25519KeyBytes "recipient public key"
  let ephemeralPrivateKey := r.ephemeralPrivateKey.toList
  let ephemeralPublicKey := (c.getPublicKey ephemeralPrivateKey).toList
  let sharedSecret ← c.getSharedSecret ephemeralPrivateKey recipientPublicKey
  mailRecord c sharedSecret ephemeralPublicKey r.nonce.toList plaintext.plaintextBytes

def slotSealing (r : Randomness) (aadPrefix : Bytes) (material : MultiRecipientMaterial)
    (index : Nat) : Sealing :=
  ⟨material.wrappingKey, multiSlotNonce r.nonce.toList index,
    multiSlotAad aadPrefix index material.slotTag, r.dek.toList⟩

def bodySealing (r : Randomness) (aadPrefix plaintext : Bytes) : Sealing :=
  ⟨r.dek.toList, r.bodyNonce.toList, multiBodyAad aadPrefix r.bodyNonce.toList, plaintext⟩

/-- The tag of a slot, and the key that is wrapped in it. -/
def slotBytes (r : Randomness) (aadPrefix : Bytes) (material : MultiRecipientMaterial)
    (index : Nat) : Bytes :=
  material.slotTag ++ c.aesGcmEncrypt (slotSealing r aadPrefix material index)

def multiWireBytes (r : Randomness) (aadPrefix : Bytes) (materials : List MultiRecipientMaterial)
    (plaintext : Bytes) : Bytes :=
  multiRecipientMarker ++ [multiRecipientVersion, Fin.ofNat 256 materials.length] ++
    (materials.zipIdx.map fun (material, index) => slotBytes c r aadPrefix material index).flatten ++
    r.bodyNonce.toList ++ c.aesGcmEncrypt (bodySealing r aadPrefix plaintext)

/-- `materials.sort` by the slot tags. -/
def sortMaterials (materials : List MultiRecipientMaterial) : List MultiRecipientMaterial :=
  materials.mergeSort fun left right => decide (compareBytes left.slotTag right.slotTag ≤ 0)

def tagCollision : List MultiRecipientMaterial → Bool
  | first :: second :: rest =>
    equalBytes first.slotTag second.slotTag || tagCollision (second :: rest)
  | _ => false

def recipientMaterials (r : Randomness) (recipientKeys : List Bytes) :
    Except String (List MultiRecipientMaterial) := do
  let materials ← recipientKeys.mapM fun recipientPublicKey => do
    let sharedSecret ← c.getSharedSecret r.ephemeralPrivateKey.toList recipientPublicKey
    return deriveMultiRecipientMaterial c sharedSecret r.nonce.toList recipientKeys.length
  return sortMaterials materials

def encryptMailForRecipients (r : Randomness) (recipientPublicKeys : List Bytes)
    (plaintext : Plaintext) : Except String EncryptedMailRecord := do
  throwIf (recipientPublicKeys.length = 0)
    "Multi-recipient message requires at least one recipient."
  throwIf (maxMultiRecipients < recipientPublicKeys.length)
    ("Multi-recipient message supports at most " ++ toString maxMultiRecipients ++
      " recipients within the " ++ toString maxCtFelts ++ "-felt ciphertext cap.")
  let _ ← recipientPublicKeys.zipIdx.mapM fun (publicKey, index) =>
    assertLength publicKey x25519KeyBytes ("recipient public key " ++ toString index)
  throwIf (¬ (recipientPublicKeys.map bytesToFingerprint).Nodup)
    "Multi-recipient public keys must be unique."
  match recipientPublicKeys with
  | [recipientPublicKey] => encryptMail c r recipientPublicKey plaintext
  | recipientKeys =>
    let plaintextBytes := plaintext.plaintextBytes
    let projectedBytes := multiFixedBytes + recipientKeys.length * multiRecipientSlotBytes +
      plaintextBytes.length
    throwIf (maxPackedBytes < projectedBytes)
      ("Encrypted message for " ++ toString recipientKeys.length ++ " recipients and " ++
        toString plaintextBytes.length ++ " plaintext bytes exceeds the " ++ toString maxCtFelts ++
        "-felt ciphertext cap.")
    let ephemeralPublicKey := (c.getPublicKey r.ephemeralPrivateKey.toList).toList
    let nonce := r.nonce.toList
    let materials ← recipientMaterials c r recipientKeys
    throwIf (tagCollision materials = true)
      "Multi-recipient slot tag collision; retry encryption."
    let aadPrefix := multiAadPrefix ephemeralPublicKey nonce materials.length
    let ciphertextFelts := packBytesToFelts (multiWireBytes c r aadPrefix materials plaintextBytes)
    throwIf (maxCtFelts < ciphertextFelts.length)
      ("Encrypted multi-recipient message exceeds " ++ toString maxCtFelts ++ " ciphertext felts.")
    let ephemeralPub ← publicKeyToFelts ephemeralPublicKey
    let noncePair ← nonceToFelts nonce
    return ⟨ephemeralPub, multiRecipientViewTag, noncePair, ciphertextFelts⟩

/-! ## Decryption -/

def hasMultiRecipientMarker (bytes : Bytes) : Bool :=
  decide (multiMarkerBytes ≤ bytes.length ∧ bytes.take multiMarkerBytes = multiRecipientMarker)

structure Slot where
  index : Nat
  tag : Bytes
  wrappedDek : Bytes

structure ParsedMultiRecipientCiphertext where
  slotCount : Nat
  slots : List Slot
  bodyNonce : Bytes
  bodyCiphertext : Bytes

def parseMultiRecipientCiphertext (bytes : Bytes) :
    Except String ParsedMultiRecipientCiphertext := do
  throwIf (hasMultiRecipientMarker bytes = false) "Multi-recipient message marker is missing."
  throwIf (bytes.length < multiHeaderBytes) "Multi-recipient message header is truncated."
  throwIf (bytes[multiMarkerBytes]? ≠ some multiRecipientVersion)
    "Unsupported multi-recipient message version."
  let slotCount := (bytes.getD (multiMarkerBytes + 1) 0).val
  throwIf (slotCount < 2 ∨ maxMultiRecipients < slotCount)
    "Multi-recipient message has an invalid slot count."
  let bodyNonceOffset := multiHeaderBytes + slotCount * multiRecipientSlotBytes
  throwIf (bytes.length < bodyNonceOffset + nonceBytes + aesTagBytes)
    "Multi-recipient message ciphertext is truncated."
  let slots := (List.range slotCount).map fun index =>
    let slot := block multiRecipientSlotBytes (bytes.drop multiHeaderBytes) index
    ⟨index, slot.take multiSlotTagBytes, slot.drop multiSlotTagBytes⟩
  return ⟨slotCount, slots, (bytes.drop bodyNonceOffset).take nonceBytes,
    bytes.drop (bodyNonceOffset + nonceBytes)⟩

def decryptLegacyMail (sharedSecret ephemeralPublicKey nonce : Bytes)
    (record : EncryptedMailRecord) (ciphertext : Bytes) : Except String Bytes := do
  throwIf (record.viewTag ≠ mailViewTag c sharedSecret) "Chat view tag does not match."
  c.aesGcmDecrypt (mailAesKey c sharedSecret) nonce (mailAad ephemeralPublicKey nonce) ciphertext

/-- The body, by the key that is wrapped in a slot. -/
def openSlot (material : MultiRecipientMaterial) (nonce aadPrefix : Bytes)
    (parsed : ParsedMultiRecipientCiphertext) (slot : Slot) : Except String Bytes := do
  let dek ← c.aesGcmDecrypt material.wrappingKey (multiSlotNonce nonce slot.index)
    (multiSlotAad aadPrefix slot.index slot.tag) slot.wrappedDek
  assertLength dek aesKeyBytes "unwrapped content key"
  c.aesGcmDecrypt dek parsed.bodyNonce (multiBodyAad aadPrefix parsed.bodyNonce)
    parsed.bodyCiphertext

def openSlots (material : MultiRecipientMaterial) (nonce aadPrefix : Bytes)
    (parsed : ParsedMultiRecipientCiphertext) (foundCandidate : Bool) :
    List Slot → Except String Bytes
  | [] => .error (if foundCandidate then "Chat recipient slot authentication failed."
      else "Chat recipient slot was not found.")
  | slot :: slots =>
    if equalBytes slot.tag material.slotTag = false then
      openSlots material nonce aadPrefix parsed foundCandidate slots
    else match openSlot c material nonce aadPrefix parsed slot with
      | .ok plaintext => .ok plaintext
      | .error _ => openSlots material nonce aadPrefix parsed true slots

def decryptMultiRecipientMail (sharedSecret ephemeralPublicKey nonce ciphertext : Bytes) :
    Except String Bytes := do
  let parsed ← parseMultiRecipientCiphertext ciphertext
  let material := deriveMultiRecipientMaterial c sharedSecret nonce parsed.slotCount
  let aadPrefix := multiAadPrefix ephemeralPublicKey nonce parsed.slotCount
  openSlots c material nonce aadPrefix parsed false parsed.slots

/-- What `decryptMail` does with the bytes of the ciphertext. A record of the older kind can look
like one for several recipients, and is tried as such first. -/
def decryptCiphertext (sharedSecret ephemeralPublicKey nonce : Bytes)
    (record : EncryptedMailRecord) (ciphertext : Bytes) : Except String Bytes :=
  if record.viewTag = multiRecipientViewTag ∧ hasMultiRecipientMarker ciphertext = true then
    match decryptMultiRecipientMail c sharedSecret ephemeralPublicKey nonce ciphertext with
    | .ok plaintext => .ok plaintext
    | .error multiRecipientError =>
      match decryptLegacyMail c sharedSecret ephemeralPublicKey nonce record ciphertext with
      | .ok plaintext => .ok plaintext
      | .error _ => .error multiRecipientError
  else decryptLegacyMail c sharedSecret ephemeralPublicKey nonce record ciphertext

/-- The ciphertext is unpacked before the secret is computed if the view tag is that of several
recipients, and after it otherwise. -/
def decryptMail (privateKey : Bytes) (record : EncryptedMailRecord) : Except String Bytes := do
  assertLength privateKey x25519KeyBytes "x25519 private key"
  let ephemeralPublicKey ← publicKeyFromFelts record.ephemeralPub
  let nonce ← nonceFromFelts record.nonce
  if record.viewTag = multiRecipientViewTag then
    let ciphertext ← unpackFeltsToBytes record.ciphertextFelts
    let sharedSecret ← c.getSharedSecret privateKey ephemeralPublicKey
    decryptCiphertext c sharedSecret ephemeralPublicKey nonce record ciphertext
  else
    let sharedSecret ← c.getSharedSecret privateKey ephemeralPublicKey
    let ciphertext ← unpackFeltsToBytes record.ciphertextFelts
    decryptCiphertext c sharedSecret ephemeralPublicKey nonce record ciphertext

end App20.Mail
