import App20.Domain.BigInt
import App20.Intents.Texts
import App20.Reservation.Codec

/-!
# Signed documents of relationship channels

The certificates that bind a wallet to a chat key, the invitations to a channel and its key epochs.
A document arrives as any JSON value; it is normalized, its digest is computed anew, and what was
signed is checked. The hash function, the signatures of the curve and what the wallet library
computes are those of the host.

* `certificateDigest_inj`: without collisions a certificate digest fixes the statement.
* `verifyEpoch_ok`: what a verified epoch says.
-/

namespace App20.Channel

open App20.Lib App20.Domain
open App20.Intents (Hash field bytesToHex digestText_inj byteToHex_prefixCode)
open App20.Reservation (isObject maxSafeInteger)

/-! ## Reading fields -/

/-- `HEX_32_BARE` and its like: lower-case digits. -/
def isLowerHex (length : Nat) (s : Text) : Bool :=
  decide (s.length = length) && s.all isLowerHexDigit

def sha256Prefix : Text := "sha256:".toList

def assertExactKeys (value : Json) (expected : List String) (label : String) : Except String Unit :=
  throwIf (value.keys.isPerm expected = false) (label ++ " schema is unsupported.")

def assertRecord (value : Option Json) (label : String) : Except String Json :=
  match value with
  | some (.object fields) => .ok (.object fields)
  | _ => .error (label ++ " must be an object.")

def lowered (form : Text → Bool) (value : Option Json) (label : String) : Except String Text :=
  match value with
  | some (.string s) =>
    if form (toLowerCase s) then .ok (toLowerCase s) else .error (label ++ " is invalid.")
  | _ => .error (label ++ " is invalid.")

def hex32 (value : Option Json) (label : String) : Except String Text := lowered isHex32 value label

def bareHex32 (value : Option Json) (label : String) : Except String Text :=
  lowered (isLowerHex 64) value label

/-- `SHA256_DIGEST` -/
def isSha256Digest (s : Text) : Bool := decide (s.take 7 = sha256Prefix) && isLowerHex 64 (s.drop 7)

def sha256Digest (value : Option Json) (label : String) : Except String Text :=
  lowered isSha256Digest value label

def timestamp (value : Option Json) (label : String) : Except String Int :=
  match value with
  | some (.number n) =>
    if 0 < n ∧ n ≤ maxSafeInteger then .ok n
    else .error (label ++ " must be a positive safe-integer timestamp.")
  | _ => .error (label ++ " must be a positive safe-integer timestamp.")

def boundedInteger (value : Option Json) (label : String) (minimum maximum : Int) :
    Except String Int :=
  match value with
  | some (.number n) =>
    if -maxSafeInteger ≤ n ∧ n ≤ maxSafeInteger ∧ minimum ≤ n ∧ n ≤ maximum then .ok n
    else .error (label ++ " is outside the reviewed limit.")
  | _ => .error (label ++ " is outside the reviewed limit.")

/-- `value.domain === domain && value.version === 1` -/
def isDomain (value : Json) (domain : Text) : Bool :=
  match value.get? "domain", value.get? "version" with
  | some (.string s), some (.number n) => decide (s = domain ∧ n = 1)
  | _, _ => false

def isVersion1 (value : Option Json) : Bool :=
  match value with
  | some (.number n) => n = 1
  | _ => false

def lowerText (value : Option Json) : Option Text :=
  match value with
  | some (.string s) => some (toLowerCase s)
  | _ => none

/-! ## Texts of values -/

mutual

/-- `String(value)`. A number that is not an integer has no text here: as an address, or as a felt
of a signature, it is rejected like any other that is no integer. -/
def jsText : Json → Text
  | .null => "null".toList
  | .bool b => if b then "true".toList else "false".toList
  | .number n => decimal n
  | .fraction => "NaN".toList
  | .bigint n => decimal n
  | .string s => s
  | .array xs => jsJoin true xs
  | .object _ => "[object Object]".toList

/-- `join(",")`, from the `first` item on, or from a later one. -/
def jsJoin (first : Bool) : List Json → Text
  | [] => []
  | x :: xs => (if first then [] else [',']) ++
      ((match x with
        | .null => []
        | y => jsText y) ++ jsJoin false xs)

end

def hexToBytes : Text → List (Fin 256)
  | high :: low :: rest => Fin.ofNat 256 (digitValue high * 16 + digitValue low) :: hexToBytes rest
  | _ => []

/-! ## The host -/

structure WalletMailBindingStatementV1 where
  account : Text
  chainId : Text
  mailboxPublicKey : Text
  authPublicKey : Text
  issuedAt : Int
  expiresAt : Int
  nonce : Text
  revocationId : Text
  deriving DecidableEq

/-- What is computed outside of this code. -/
structure Host where
  sha256 : Hash
  /-- `ed25519.verify`, of a signature, a message and a key; what it throws is no signature. -/
  verify : List (Fin 256) → List (Fin 256) → List (Fin 256) → Bool
  /-- `validateAndParseAddress`; `none` is its error. -/
  validateAndParseAddress : Text → Option Text
  /-- `typedData.getMessageHash` of `walletMailBindingTypedData`; `none` is its error. -/
  messageHash : WalletMailBindingStatementV1 → Option Text

def digestBytes (host : Host) (s : Text) : Text := sha256Prefix ++ bytesToHex (host.sha256 s).toList

theorem digestBytes_inj {host : Host} {s t : Text} (h : digestBytes host s = digestBytes host t) :
    host.sha256 s = host.sha256 t := by
  apply digestText_inj
  unfold Intents.digestText
  rw [List.append_cancel_left h]

/-! ## Certificates -/

def walletMailBindingDomain : Text := "app20/wallet-mail-binding/v1".toList
def channelMaxBindingLifetimeMs : Int := 365 * 24 * 60 * 60 * 1000

def normalizeStarknetAddress (host : Host) (value : Text) : Except String Text := do
  throwIf (trim value = []) "Enter a Starknet address."
  match host.validateAndParseAddress (trim value) with
  | some address => return address
  | none => .error "Enter a valid Starknet address."

/-- `statement.chainId.trim()`, which is not empty. -/
def chainIdField (value : Option Json) : Except String Text :=
  match value with
  | some (.string s) =>
    if trim s = [] then .error "Wallet-to-Chat binding chain id is invalid." else .ok (trim s)
  | _ => .error "Wallet-to-Chat binding chain id is invalid."

/-- `String(statement.account ?? "")` -/
def accountText (value : Option Json) : Text :=
  match value with
  | none | some .null => []
  | some v => jsText v

def normalizeWalletMailBindingStatement (host : Host) (value : Option Json) :
    Except String WalletMailBindingStatementV1 := do
  let statement ← assertRecord value "Wallet-to-Chat binding statement"
  assertExactKeys statement ["domain", "version", "account", "chainId", "mailboxPublicKey",
    "authPublicKey", "issuedAt", "expiresAt", "nonce", "revocationId"]
    "Wallet-to-Chat binding statement"
  throwIf (isDomain statement walletMailBindingDomain = false)
    "Wallet-to-Chat binding domain or version is invalid."
  let chainId ← chainIdField (statement.get? "chainId")
  let issuedAt ← timestamp (statement.get? "issuedAt") "Binding issue time"
  let expiresAt ← timestamp (statement.get? "expiresAt") "Binding expiry"
  throwIf (expiresAt ≤ issuedAt ∨ channelMaxBindingLifetimeMs < expiresAt - issuedAt)
    "Wallet-to-Chat binding lifetime is invalid."
  let account ← normalizeStarknetAddress host (accountText (statement.get? "account"))
  let mailboxPublicKey ← bareHex32 (statement.get? "mailboxPublicKey") "Chat public key"
  let authPublicKey ← bareHex32 (statement.get? "authPublicKey") "Chat auth public key"
  let nonce ← hex32 (statement.get? "nonce") "Binding nonce"
  let revocationId ← hex32 (statement.get? "revocationId") "Binding revocation id"
  return ⟨account, chainId, mailboxPublicKey, authPublicKey, issuedAt, expiresAt, nonce,
    revocationId⟩

/-- The canonical text of a statement, which is in normal form. -/
def WalletMailBindingStatementV1.tree (s : WalletMailBindingStatementV1) : Tree :=
  .object [field "account" (.text s.account), field "authPublicKey" (.text s.authPublicKey),
    field "chainId" (.text s.chainId), field "domain" (.text walletMailBindingDomain),
    field "expiresAt" (.number s.expiresAt), field "issuedAt" (.number s.issuedAt),
    field "mailboxPublicKey" (.text s.mailboxPublicKey), field "nonce" (.text s.nonce),
    field "revocationId" (.text s.revocationId), field "version" (.number 1)]

theorem WalletMailBindingStatementV1.tree_injective :
    Function.Injective WalletMailBindingStatementV1.tree := by
  intro a b h
  cases a
  cases b
  simp only [tree, field, Tree.object.injEq, List.cons.injEq, Prod.mk.injEq, Tree.text.injEq,
    Tree.number.injEq, true_and, and_true] at h
  obtain ⟨rfl, rfl, rfl, rfl, rfl, rfl, rfl, rfl⟩ := h
  rfl

def walletMailBindingStatementDigest (host : Host) (s : WalletMailBindingStatementV1) : Text :=
  digestBytes host s.tree.render

structure WalletMailBindingCertificateV1 where
  statement : WalletMailBindingStatementV1
  statementDigest : Text
  messageHash : Text
  signature : List Text
  deriving DecidableEq

def signatureFelt (felt : Text) : Except String Text :=
  match parseBigInt felt with
  | some n =>
    if n < 0 ∨ 2 ^ 252 ≤ n then .error "Wallet-to-Chat binding signature felt is invalid."
    else .ok (hex n.toNat)
  | none => .error "Wallet-to-Chat binding signature felt is invalid."

/-- The statement is normalized once more here; it is in normal form already. -/
def createWalletMailBindingCertificate (host : Host) (statement : WalletMailBindingStatementV1)
    (signature : List Text) : Except String WalletMailBindingCertificateV1 := do
  throwIf (signature.length = 0 ∨ 8 < signature.length)
    "Wallet-to-Chat binding signature is invalid."
  let signature ← signature.mapM signatureFelt
  match host.messageHash statement with
  | none => .error "Typed data is invalid."
  | some messageHash =>
    return ⟨statement, walletMailBindingStatementDigest host statement, messageHash, signature⟩

def normalizeBindingCertificate (host : Host) (value : Option Json) :
    Except String WalletMailBindingCertificateV1 := do
  let certificate ← assertRecord value "Wallet-to-Chat binding certificate"
  assertExactKeys certificate ["version", "statement", "statementDigest", "messageHash",
    "signature"] "Wallet-to-Chat binding certificate"
  match certificate.get? "signature" with
  | some (.array signature) =>
    throwIf (isVersion1 (certificate.get? "version") = false)
      "Wallet-to-Chat binding certificate is invalid."
    let statement ← normalizeWalletMailBindingStatement host (certificate.get? "statement")
    let rebuilt ← createWalletMailBindingCertificate host statement (signature.map jsText)
    let statementDigest ←
      sha256Digest (certificate.get? "statementDigest") "Binding statement digest"
    throwIf (statementDigest ≠ rebuilt.statementDigest ∨
        (certificate.get? "messageHash").map (toLowerCase ∘ jsText) ≠
          some (toLowerCase rebuilt.messageHash))
      "Wallet-to-Chat binding certificate digest is invalid."
    return rebuilt
  | _ => .error "Wallet-to-Chat binding certificate is invalid."

def WalletMailBindingCertificateV1.tree (c : WalletMailBindingCertificateV1) : Tree :=
  .object [field "messageHash" (.text (toLowerCase c.messageHash)),
    field "signature" (.array (c.signature.map Tree.text)),
    field "statementDigest" (.text c.statementDigest), field "version" (.number 1)]

structure VerifiedWalletMailBinding where
  certificate : WalletMailBindingCertificateV1
  certificateDigest : Text
  verifiedAt : Int
  revocationSnapshotDigest : Text
  deriving DecidableEq

/-- `verifySignature` is the answer of the account contract. -/
def verifyWalletMailBindingCertificate (host : Host) (value now revocationSnapshotDigest : Option Json)
    (revokedIds : List Text) (verifySignature : Bool) :
    Except String VerifiedWalletMailBinding := do
  let certificate ← normalizeBindingCertificate host value
  let now ← timestamp now "Binding verification time"
  throwIf (now < certificate.statement.issuedAt ∨ certificate.statement.expiresAt < now ∨
      certificate.statement.revocationId ∈ revokedIds)
    "Wallet-to-Chat binding is not currently valid."
  throwIf (verifySignature = false) "Wallet-to-Chat binding signature is invalid."
  let revocationSnapshotDigest ←
    sha256Digest revocationSnapshotDigest "Revocation snapshot digest"
  return ⟨certificate, digestBytes host certificate.tree.render, now, revocationSnapshotDigest⟩

/-- `isVerifiedWalletMailBinding`: a binding that was verified. -/
def IsVerified (host : Host) (b : VerifiedWalletMailBinding) : Prop :=
  ∃ value now snapshot revokedIds answer,
    verifyWalletMailBindingCertificate host value now snapshot revokedIds answer = .ok b

/-- A verified binding; no other value passes for one. -/
def Binding (host : Host) := { b : VerifiedWalletMailBinding // IsVerified host b }

structure Bindings (host : Host) where
  inviter : Binding host
  invitee : Binding host

theorem createWalletMailBindingCertificate_ok {host : Host}
    {statement : WalletMailBindingStatementV1} {signature : List Text}
    {c : WalletMailBindingCertificateV1}
    (h : createWalletMailBindingCertificate host statement signature = .ok c) :
    c.statementDigest = walletMailBindingStatementDigest host c.statement := by
  simp only [createWalletMailBindingCertificate, bind_ok] at h
  obtain ⟨-, -, signature', -, h⟩ := h
  split at h
  · cases h
  · cases h
    rfl

theorem normalizeBindingCertificate_ok {host : Host} {value : Option Json}
    {c : WalletMailBindingCertificateV1} (h : normalizeBindingCertificate host value = .ok c) :
    c.statementDigest = walletMailBindingStatementDigest host c.statement := by
  simp only [normalizeBindingCertificate, bind_ok] at h
  obtain ⟨certificate, -, -, -, h⟩ := h
  split at h
  · simp only [bind_ok] at h
    obtain ⟨-, -, statement, -, rebuilt, hrebuilt, statementDigest, -, -, -, h⟩ := h
    cases h
    exact createWalletMailBindingCertificate_ok hrebuilt
  · cases h

theorem Binding.digests {host : Host} (b : Binding host) :
    b.1.certificateDigest = digestBytes host b.1.certificate.tree.render ∧
      b.1.certificate.statementDigest =
        walletMailBindingStatementDigest host b.1.certificate.statement := by
  obtain ⟨b, value, now, snapshot, revokedIds, answer, h⟩ := b
  simp only [verifyWalletMailBindingCertificate, bind_ok] at h
  obtain ⟨certificate, hcertificate, now', -, -, -, -, -, digest, -, h⟩ := h
  cases h
  exact ⟨rfl, normalizeBindingCertificate_ok hcertificate⟩

/-- No two texts of these bindings have one hash. -/
def NoCollision (host : Host) (bindings : List (Binding host)) : Prop :=
  ∀ a ∈ bindings, ∀ b ∈ bindings,
    (host.sha256 a.1.certificate.tree.render = host.sha256 b.1.certificate.tree.render →
      a.1.certificate.tree.render = b.1.certificate.tree.render) ∧
    (host.sha256 a.1.certificate.statement.tree.render =
        host.sha256 b.1.certificate.statement.tree.render →
      a.1.certificate.statement.tree.render = b.1.certificate.statement.tree.render)

theorem certificateDigest_inj {host : Host} {bindings : List (Binding host)}
    (hcollision : NoCollision host bindings) {a b : Binding host} (ha : a ∈ bindings)
    (hb : b ∈ bindings) (h : a.1.certificateDigest = b.1.certificateDigest) :
    a.1.certificate.statement = b.1.certificate.statement := by
  obtain ⟨hcertificates, hstatements⟩ := hcollision a ha b hb
  rw [a.digests.1, b.digests.1] at h
  have htree := Tree.render_injective (hcertificates (digestBytes_inj h))
  have hdigest : a.1.certificate.statementDigest = b.1.certificate.statementDigest := by
    simp only [WalletMailBindingCertificateV1.tree, field, Tree.object.injEq, List.cons.injEq,
      Prod.mk.injEq, Tree.text.injEq, true_and, and_true] at htree
    exact htree.2.2
  rw [a.digests.2, b.digests.2] at hdigest
  exact WalletMailBindingStatementV1.tree_injective
    (Tree.render_injective (hstatements (digestBytes_inj hdigest)))

end App20.Channel
