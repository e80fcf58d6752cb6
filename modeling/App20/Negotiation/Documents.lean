import App20.Domain.CompareText
import App20.Domain.Decimal
import App20.Channel.Documents

/-!
# Negotiation documents

An offer, a counter, an acceptance or a cancellation arrives as any JSON value. It is normalized, its
digest is computed anew, and its signature is checked with the key that it names. How texts are
normalized is the host's.

* `verifySigned_ok`: what a verified document says.
* `canonical_accept`: two documents of one canonical text are both acceptances of one digest, or
  neither is.
-/

namespace App20.Negotiation

open App20.Lib App20.Domain
open App20.Intents (field)
open App20.Reservation (maxSafeInteger)
open App20.Channel (assertRecord assertExactKeys hex32 sha256Digest timestamp isLowerHex lowerText
  isVersion1 isDomain digestBytes hexToBytes accountText normalizeStarknetAddress lowered
  isSha256Digest)

structure Host extends Channel.Host where
  /-- `normalize("NFKC")` -/
  nfkc : Text → Text

def negotiationDocumentDomain : Text := "app20/negotiation-document/v1".toList
def negotiationSignatureDomain : Text := "app20/negotiation-signature/v1".toList
def maxNegotiationAttachments : Nat := 4
def maxNegotiationAttachmentBytes : Int := 5 * 1024 * 1024
def maxNegotiationLifetimeMs : Int := 30 * 24 * 60 * 60 * 1000

/-! ## Reading fields -/

def stringValue (host : Host) (value : Option Json) (label : String) (maximumLength : Nat) :
    Except String Text :=
  match value with
  | some (.string s) =>
    let normalized := trim (host.nfkc s)
    if normalized = [] ∨ maximumLength < (codeUnits normalized).length then
      .error (label ++ " is invalid.")
    else .ok normalized
  | _ => .error (label ++ " must be text.")

def u256Max : Int := 2 ^ 256 - 1

def positiveUnits (value : Option Json) (label : String) : Except String Text :=
  match value with
  | some (.string s) =>
    if isDecimal s = false then .error (label ++ " must be canonical decimal base units.")
    else if decimalValue s ≤ 0 ∨ u256Max < decimalValue s then
      .error (label ++ " must fit a positive u256.")
    else .ok s
  | _ => .error (label ++ " must be canonical decimal base units.")

/-- A value that is checked by its `String(…)` and kept as it is: a text, or a list whose one item is
such a value, since a list of one item has the text of the item. -/
inductive Spelled (α : Type) where
  | text (value : α)
  | list (inner : Spelled α)

namespace Spelled

variable {α : Type}

def value : Spelled α → α
  | text a => a
  | list inner => inner.value

def json (name : α → Text) : Spelled α → Json
  | text a => .string (name a)
  | list inner => .array [inner.json name]

def tree (name : α → Text) : Spelled α → Tree
  | text a => .text (name a)
  | list inner => .array [inner.tree name]

/-- `===`: two lists are two objects, and a list is no text. -/
def same [DecidableEq α] : Spelled α → Spelled α → Bool
  | text a, text b => decide (a = b)
  | _, _ => false

end Spelled

mutual

def readSpelled {α : Type} (read : Text → Option α) : Json → Option (Spelled α)
  | .string s => (read s).map Spelled.text
  | .array items => readSpelledItem read items
  | _ => none

def readSpelledItem {α : Type} (read : Text → Option α) : List Json → Option (Spelled α)
  | [item] => (readSpelled read item).map Spelled.list
  | _ => none

end

/-! ## Terms -/

inductive NegotiationRole where
  | taker | maker
  deriving DecidableEq

def NegotiationRole.name : NegotiationRole → Text
  | .taker => "taker".toList
  | .maker => "maker".toList

def readRole (s : Text) : Option NegotiationRole :=
  if s = "taker".toList then some .taker
  else if s = "maker".toList then some .maker
  else none

structure NegotiationTermsV1 where
  chainId : Text
  registryRevision : Text
  intentDigest : Text
  makerId : Text
  sellToken : Text
  buyToken : Text
  sellAmount : Text
  minBuyAmount : Text
  quoteExpiresAt : Int
  settlementDeadline : Int

def normalizeTerms (host : Host) (value : Option Json) : Except String NegotiationTermsV1 := do
  let terms ← assertRecord value "Negotiation terms"
  assertExactKeys terms ["chainId", "registryRevision", "intentDigest", "makerId", "sellToken",
    "buyToken", "sellAmount", "minBuyAmount", "quoteExpiresAt", "settlementDeadline"]
    "Negotiation terms"
  let sellToken ← normalizeStarknetAddress host.toHost (accountText (terms.get? "sellToken"))
  let buyToken ← normalizeStarknetAddress host.toHost (accountText (terms.get? "buyToken"))
  throwIf (sellToken = buyToken) "Negotiation tokens must be different."
  let quoteExpiresAt ← timestamp (terms.get? "quoteExpiresAt") "Quote expiry"
  let settlementDeadline ← timestamp (terms.get? "settlementDeadline") "Settlement deadline"
  throwIf (settlementDeadline ≤ quoteExpiresAt) "Settlement deadline must follow quote expiry."
  let chainId ← stringValue host (terms.get? "chainId") "Chain id" 80
  let registryRevision ←
    stringValue host (terms.get? "registryRevision") "Registry revision" 128
  let intentDigest ← sha256Digest (terms.get? "intentDigest") "Intent digest"
  let makerId ← stringValue host (terms.get? "makerId") "Maker id" 128
  let sellAmount ← positiveUnits (terms.get? "sellAmount") "Sell amount"
  let minBuyAmount ← positiveUnits (terms.get? "minBuyAmount") "Minimum buy amount"
  return ⟨chainId, registryRevision, intentDigest, makerId, sellToken, buyToken, sellAmount,
    minBuyAmount, quoteExpiresAt, settlementDeadline⟩

def NegotiationTermsV1.json (t : NegotiationTermsV1) : Json :=
  .object [("chainId", .string t.chainId), ("registryRevision", .string t.registryRevision),
    ("intentDigest", .string t.intentDigest), ("makerId", .string t.makerId),
    ("sellToken", .string t.sellToken), ("buyToken", .string t.buyToken),
    ("sellAmount", .string t.sellAmount), ("minBuyAmount", .string t.minBuyAmount),
    ("quoteExpiresAt", .number t.quoteExpiresAt),
    ("settlementDeadline", .number t.settlementDeadline)]

def NegotiationTermsV1.tree (t : NegotiationTermsV1) : Tree :=
  .object [field "buyToken" (.text t.buyToken), field "chainId" (.text t.chainId),
    field "intentDigest" (.text t.intentDigest), field "makerId" (.text t.makerId),
    field "minBuyAmount" (.text t.minBuyAmount),
    field "quoteExpiresAt" (.number t.quoteExpiresAt),
    field "registryRevision" (.text t.registryRevision), field "sellAmount" (.text t.sellAmount),
    field "sellToken" (.text t.sellToken),
    field "settlementDeadline" (.number t.settlementDeadline)]

def canonicalNegotiationTerms (host : Host) (terms : NegotiationTermsV1) : Except String Text := do
  let normalized ← normalizeTerms host (some terms.json)
  return normalized.tree.render

def negotiationTermsDigest (host : Host) (terms : NegotiationTermsV1) : Except String Text := do
  let canonical ← canonicalNegotiationTerms host terms
  return digestBytes host.toHost canonical

/-! ## Attachments -/

structure EncryptedAttachmentManifestV1 where
  attachmentId : Text
  fileName : Text
  mediaType : Text
  byteLength : Int
  ciphertextDigest : Text

def allowedAttachmentTypes : List Text :=
  ["application/json".toList, "application/pdf".toList, "image/jpeg".toList, "image/png".toList,
    "text/plain".toList]

/-- `/[\\/\u0000-\u001f\u007f]/` -/
def isPathOrControl (c : Char) : Bool := decide (c = '\\' ∨ c = '/' ∨ c.toNat < 32 ∨ c.toNat = 127)

def aes256Gcm : Text := "AES-256-GCM".toList

def isEncryption (value : Option Json) : Bool :=
  match value with
  | some (.string s) => decide (s = aes256Gcm)
  | _ => false

def attachmentByteLength (value : Option Json) : Except String Int :=
  match value with
  | some (.number n) =>
    if 0 < n ∧ n ≤ maxNegotiationAttachmentBytes then .ok n
    else .error "Attachment byte length is outside the reviewed limit."
  | _ => .error "Attachment byte length is outside the reviewed limit."

def normalizeAttachment (host : Host) (value : Json) :
    Except String EncryptedAttachmentManifestV1 := do
  let attachment ← assertRecord (some value) "Negotiation attachment"
  assertExactKeys attachment ["version", "attachmentId", "fileName", "mediaType", "byteLength",
    "ciphertextDigest", "encryption"] "Negotiation attachment"
  throwIf (isVersion1 (attachment.get? "version") = false ∨
      isEncryption (attachment.get? "encryption") = false)
    "Negotiation attachment version or encryption is unsupported."
  let mediaType ← stringValue host (attachment.get? "mediaType") "Attachment media type" 80
  throwIf (toLowerCase mediaType ∉ allowedAttachmentTypes)
    "Attachment media type is not allowlisted."
  let byteLength ← attachmentByteLength (attachment.get? "byteLength")
  let fileName ← stringValue host (attachment.get? "fileName") "Attachment filename" 120
  throwIf (fileName.any isPathOrControl = true)
    "Attachment filename contains a path or control character."
  let attachmentId ← hex32 (attachment.get? "attachmentId") "Attachment id"
  let ciphertextDigest ←
    sha256Digest (attachment.get? "ciphertextDigest") "Attachment ciphertext digest"
  return ⟨attachmentId, fileName, toLowerCase mediaType, byteLength, ciphertextDigest⟩

def EncryptedAttachmentManifestV1.json (a : EncryptedAttachmentManifestV1) : Json :=
  .object [("version", .number 1), ("attachmentId", .string a.attachmentId),
    ("fileName", .string a.fileName), ("mediaType", .string a.mediaType),
    ("byteLength", .number a.byteLength), ("ciphertextDigest", .string a.ciphertextDigest),
    ("encryption", .string aes256Gcm)]

def EncryptedAttachmentManifestV1.tree (a : EncryptedAttachmentManifestV1) : Tree :=
  .object [field "attachmentId" (.text a.attachmentId), field "byteLength" (.number a.byteLength),
    field "ciphertextDigest" (.text a.ciphertextDigest), field "encryption" (.text aes256Gcm),
    field "fileName" (.text a.fileName), field "mediaType" (.text a.mediaType),
    field "version" (.number 1)]

/-! ## Documents -/

inductive CancelReason where
  | expired | termsChanged | userCancelled | riskPolicy

def CancelReason.name : CancelReason → Text
  | .expired => "expired".toList
  | .termsChanged => "terms_changed".toList
  | .userCancelled => "user_cancelled".toList
  | .riskPolicy => "risk_policy".toList

def readReason (s : Text) : Option CancelReason :=
  [CancelReason.expired, .termsChanged, .userCancelled, .riskPolicy].find? fun r => r.name = s

structure NegotiationBaseV1 where
  documentId : Text
  conversationId : Text
  revision : Int
  parentDigest : Option Text
  authorRole : Spelled NegotiationRole
  authorBindingDigest : Text
  createdAt : Int
  expiresAt : Int
  note : Text

/-- What a document says, by its kind. -/
inductive NegotiationBody where
  | offer (terms : NegotiationTermsV1) (termsDigest : Text)
      (attachments : List EncryptedAttachmentManifestV1)
  | counter (terms : NegotiationTermsV1) (termsDigest : Text)
      (attachments : List EncryptedAttachmentManifestV1)
  | accept (acceptedTermsDigest : Text)
  | cancel (cancelledTermsDigest : Text) (reason : Spelled CancelReason)

structure NegotiationDocumentV1 extends NegotiationBaseV1 where
  body : NegotiationBody

/-- A digest, or `null`. -/
def parentDigest (value : Option Json) : Except String (Option Text) :=
  match value with
  | some .null => .ok none
  | value => (sha256Digest value "Negotiation parent digest").map some

def revisionOf (value : Option Json) : Except String Int :=
  match value with
  | some (.number n) =>
    if 0 < n ∧ n ≤ maxSafeInteger then .ok n
    else .error "Negotiation revision must be a positive safe integer."
  | _ => .error "Negotiation revision must be a positive safe integer."

def noteOf (host : Host) (value : Option Json) : Except String Text :=
  match value with
  | some (.string s) =>
    let note := trim (host.nfkc s)
    if 1000 < (codeUnits note).length then .error "Negotiation note exceeds the reviewed limit."
    else .ok note
  | _ => .error "Negotiation note must be text."

def normalizeBase (host : Host) (value : Json) : Except String NegotiationBaseV1 := do
  match (value.get? "authorRole").bind (readSpelled readRole) with
  | none => .error "Negotiation document version, domain, or role is invalid."
  | some authorRole =>
    throwIf (isDomain value negotiationDocumentDomain = false)
      "Negotiation document version, domain, or role is invalid."
    let createdAt ← timestamp (value.get? "createdAt") "Negotiation creation time"
    let expiresAt ← timestamp (value.get? "expiresAt") "Negotiation expiry"
    throwIf (expiresAt ≤ createdAt ∨ maxNegotiationLifetimeMs < expiresAt - createdAt)
      "Negotiation expiry is outside the reviewed lifetime."
    let revision ← revisionOf (value.get? "revision")
    let documentId ← hex32 (value.get? "documentId") "Negotiation document id"
    let conversationId ← hex32 (value.get? "conversationId") "Negotiation conversation id"
    let parentDigest ← parentDigest (value.get? "parentDigest")
    let authorBindingDigest ←
      sha256Digest (value.get? "authorBindingDigest") "Author binding digest"
    let note ← noteOf host (value.get? "note")
    return ⟨documentId, conversationId, revision, parentDigest, authorRole, authorBindingDigest,
      createdAt, expiresAt, note⟩

def baseKeys : List String :=
  ["domain", "version", "documentId", "conversationId", "revision", "parentDigest", "authorRole",
    "authorBindingDigest", "createdAt", "expiresAt", "note", "kind"]

/-- The terms, their digest and the attachments of an offer or a counter. -/
def normalizeProposal (host : Host) (document : Json) : Except String
    (NegotiationTermsV1 × Text × List EncryptedAttachmentManifestV1) := do
  assertExactKeys document (baseKeys ++ ["terms", "termsDigest", "attachments"])
    "Negotiation document"
  match document.get? "attachments" with
  | some (.array attachments) =>
    throwIf (maxNegotiationAttachments < attachments.length)
      "Negotiation attachment count exceeds the reviewed limit."
    let terms ← normalizeTerms host (document.get? "terms")
    let termsDigest ← negotiationTermsDigest host terms
    let stated ← sha256Digest (document.get? "termsDigest") "Terms digest"
    throwIf (stated ≠ termsDigest) "Negotiation terms digest does not match the terms."
    let attachments ← attachments.mapM (normalizeAttachment host)
    throwIf (¬ (attachments.map (·.attachmentId)).Nodup)
      "Negotiation attachments must have unique ids."
    return (terms, termsDigest, attachments)
  | _ => .error "Negotiation attachments must be an array."

def normalizeBody (host : Host) (document : Json) : Except String NegotiationBody := do
  match document.get? "kind" with
  | some (.string kind) =>
    if kind = "offer".toList then
      let (terms, termsDigest, attachments) ← normalizeProposal host document
      return .offer terms termsDigest attachments
    else if kind = "counter".toList then
      let (terms, termsDigest, attachments) ← normalizeProposal host document
      return .counter terms termsDigest attachments
    else if kind = "accept".toList then
      assertExactKeys document (baseKeys ++ ["acceptedTermsDigest"]) "Negotiation document"
      let digest ← sha256Digest (document.get? "acceptedTermsDigest") "Accepted terms digest"
      return .accept digest
    else if kind = "cancel".toList then
      assertExactKeys document (baseKeys ++ ["cancelledTermsDigest", "reason"])
        "Negotiation document"
      match (document.get? "reason").bind (readSpelled readReason) with
      | none => .error "Negotiation cancellation reason is invalid."
      | some reason =>
        let digest ← sha256Digest (document.get? "cancelledTermsDigest") "Cancelled terms digest"
        return .cancel digest reason
    else .error "Negotiation document kind is unsupported."
  | _ => .error "Negotiation document kind is unsupported."

def normalizeNegotiationDocument (host : Host) (value : Option Json) :
    Except String NegotiationDocumentV1 := do
  let document ← assertRecord value "Negotiation document"
  let base ← normalizeBase host document
  let body ← normalizeBody host document
  return { base with body }

namespace NegotiationBody

def kind : NegotiationBody → Text
  | offer .. => "offer".toList
  | counter .. => "counter".toList
  | accept .. => "accept".toList
  | cancel .. => "cancel".toList

/-- The fields of its own that a document of this kind has. -/
def fields : NegotiationBody → List (String × Json)
  | offer terms termsDigest attachments | counter terms termsDigest attachments =>
    [("terms", terms.json), ("termsDigest", .string termsDigest),
      ("attachments", .array (attachments.map (·.json)))]
  | accept digest => [("acceptedTermsDigest", .string digest)]
  | cancel digest reason => [("cancelledTermsDigest", .string digest),
      ("reason", reason.json CancelReason.name)]

def terms? : NegotiationBody → Option NegotiationTermsV1
  | offer terms .. | counter terms .. => some terms
  | _ => none

def termsDigest? : NegotiationBody → Option Text
  | offer _ digest _ | counter _ digest _ => some digest
  | _ => none

end NegotiationBody

def NegotiationDocumentV1.json (d : NegotiationDocumentV1) : Json :=
  .object ([("domain", .string negotiationDocumentDomain), ("version", .number 1),
    ("documentId", .string d.documentId), ("conversationId", .string d.conversationId),
    ("revision", .number d.revision), ("parentDigest", d.parentDigest.elim .null .string),
    ("authorRole", d.authorRole.json NegotiationRole.name),
    ("authorBindingDigest", .string d.authorBindingDigest), ("createdAt", .number d.createdAt),
    ("expiresAt", .number d.expiresAt), ("note", .string d.note),
    ("kind", .string d.body.kind)] ++ d.body.fields)

/-- The canonical value, whose keys are sorted. -/
def NegotiationDocumentV1.tree (d : NegotiationDocumentV1) : Tree :=
  let binding := field "authorBindingDigest" (.text d.authorBindingDigest)
  let role := field "authorRole" (d.authorRole.tree NegotiationRole.name)
  let middle := [field "conversationId" (.text d.conversationId),
    field "createdAt" (.number d.createdAt), field "documentId" (.text d.documentId),
    field "domain" (.text negotiationDocumentDomain), field "expiresAt" (.number d.expiresAt),
    field "kind" (.text d.body.kind), field "note" (.text d.note),
    field "parentDigest" (d.parentDigest.elim .null .text)]
  let revision := field "revision" (.number d.revision)
  let version := field "version" (.number 1)
  match d.body with
  | .offer terms termsDigest attachments | .counter terms termsDigest attachments =>
    .object (field "attachments" (.array (attachments.map (·.tree))) :: binding :: role ::
      (middle ++ [revision, field "terms" terms.tree, field "termsDigest" (.text termsDigest),
        version]))
  | .accept digest =>
    .object (field "acceptedTermsDigest" (.text digest) :: binding :: role ::
      (middle ++ [revision, version]))
  | .cancel digest reason =>
    .object (binding :: role :: field "cancelledTermsDigest" (.text digest) ::
      (middle ++ [field "reason" (reason.tree CancelReason.name), revision, version]))

def canonicalNegotiationDocument (host : Host) (document : NegotiationDocumentV1) :
    Except String Text := do
  let normalized ← normalizeNegotiationDocument host (some document.json)
  return normalized.tree.render

def negotiationDocumentDigest (host : Host) (document : NegotiationDocumentV1) :
    Except String Text := do
  let canonical ← canonicalNegotiationDocument host document
  return digestBytes host.toHost canonical

/-! ## Signatures -/

def signatureMessage (host : Host) (documentDigest authPublicKey : Text) : List (Fin 256) :=
  (host.sha256 (Tree.object [field "authPublicKey" (.text authPublicKey),
    field "documentDigest" (.text documentDigest),
    field "domain" (.text negotiationSignatureDomain),
    field "version" (.number 1)]).render).toList

structure SignedNegotiationDocumentV1 where
  document : NegotiationDocumentV1
  documentDigest : Text
  authPublicKey : Text
  signature : Text

/-- Whatever is thrown counts as no document. -/
def verifySignedNegotiationDocument (host : Host) (value : Json) :
    Option SignedNegotiationDocumentV1 := do
  let signed ← (assertRecord (some value) "Signed negotiation document").toOption
  guard (signed.keys.isPerm ["version", "document", "documentDigest", "authPublicKey",
    "signature"] = true)
  guard (isVersion1 (signed.get? "version") = true)
  let authPublicKey ← lowerText (signed.get? "authPublicKey")
  let signature ← lowerText (signed.get? "signature")
  guard (isLowerHex 64 authPublicKey = true ∧ isLowerHex 128 signature = true)
  let document ← (normalizeNegotiationDocument host (signed.get? "document")).toOption
  let documentDigest ← (negotiationDocumentDigest host document).toOption
  let stated ← (sha256Digest (signed.get? "documentDigest") "Document digest").toOption
  guard (stated = documentDigest ∧
    host.verify (hexToBytes signature) (signatureMessage host documentDigest authPublicKey)
      (hexToBytes authPublicKey) = true)
  return ⟨document, documentDigest, authPublicKey, signature⟩

/-! ## What a verified document says -/

variable {host : Host} {value : Json} {signed : SignedNegotiationDocumentV1}
  {d d₁ d₂ n : NegotiationDocumentV1} {digest : Text}

theorem toOption_eq_some {α : Type} {x : Except String α} {a : α} (h : x.toOption = some a) :
    x = .ok a := by
  cases x with
  | error e => cases h
  | ok b =>
    cases h
    rfl

theorem verifySigned_ok (h : verifySignedNegotiationDocument host value = some signed) :
    normalizeNegotiationDocument host (value.get? "document") = .ok signed.document ∧
      negotiationDocumentDigest host signed.document = .ok signed.documentDigest ∧
      host.verify (hexToBytes signed.signature)
        (signatureMessage host signed.documentDigest signed.authPublicKey)
        (hexToBytes signed.authPublicKey) = true := by
  simp only [verifySignedNegotiationDocument, Option.bind_eq_bind, Option.bind_eq_some_iff,
    Option.guard_eq_some', Option.pure_def, Option.some.injEq] at h
  obtain ⟨record, hrecord, -, -, -, -, authPublicKey, -, signature, -, -, -, document, hdocument,
    documentDigest, hdigest, stated, -, -, ⟨-, hverify⟩, rfl⟩ := h
  have hvalue : value = record := by
    have hok := toOption_eq_some hrecord
    unfold assertRecord at hok
    split at hok
    · rename_i fields heq
      cases heq
      cases hok
      rfl
    · cases hok
  rw [hvalue]
  exact ⟨toOption_eq_some hdocument, toOption_eq_some hdigest, hverify⟩

theorem normalizeDocument_ok {v : Option Json} (h : normalizeNegotiationDocument host v = .ok d) :
    ∃ fields base, v = some (.object fields) ∧ normalizeBase host (.object fields) = .ok base ∧
      normalizeBody host (.object fields) = .ok d.body ∧ d.toNegotiationBaseV1 = base := by
  simp only [normalizeNegotiationDocument, bind_ok, pure_ok] at h
  obtain ⟨document, hdocument, base, hbase, body, hbody, rfl⟩ := h
  unfold assertRecord at hdocument
  split at hdocument
  · rename_i fields
    cases hdocument
    exact ⟨fields, base, rfl, hbase, hbody, rfl⟩
  · cases hdocument

theorem normalizeBody_ok {document : Json} {body : NegotiationBody}
    (h : normalizeBody host document = .ok body) :
    document.get? "kind" = some (.string body.kind) ∧
    (∀ terms, body.terms? = some terms → ∃ digest, body.termsDigest? = some digest ∧
      negotiationTermsDigest host terms = .ok digest) ∧
    (∀ digest, body = .accept digest →
      sha256Digest (document.get? "acceptedTermsDigest") "Accepted terms digest" = .ok digest) := by
  have hproposal : ∀ p, normalizeProposal host document = .ok p →
      negotiationTermsDigest host p.1 = .ok p.2.1 := by
    intro p hp
    simp only [normalizeProposal, bind_ok] at hp
    obtain ⟨-, -, hp⟩ := hp
    split at hp
    · simp only [bind_ok, pure_ok] at hp
      obtain ⟨-, -, terms, -, termsDigest, hdigest, stated, -, -, -, attachments, -, -, -, rfl⟩ := hp
      exact hdigest
    · cases hp
  unfold normalizeBody at h
  split at h
  · rename_i kind hkind
    rw [hkind]
    split at h
    · rename_i hoffer
      simp only [bind_ok, pure_ok] at h
      obtain ⟨p, hp, rfl⟩ := h
      refine ⟨by rw [hoffer]; rfl, fun terms hterms => ?_, fun digest haccept => by cases haccept⟩
      cases hterms
      exact ⟨_, rfl, hproposal p hp⟩
    · split at h
      · rename_i hcounter
        simp only [bind_ok, pure_ok] at h
        obtain ⟨p, hp, rfl⟩ := h
        refine ⟨by rw [hcounter]; rfl, fun terms hterms => ?_, fun digest haccept => by
          cases haccept⟩
        cases hterms
        exact ⟨_, rfl, hproposal p hp⟩
      · split at h
        · rename_i haccept
          simp only [bind_ok, pure_ok] at h
          obtain ⟨-, -, digest, hdigest, rfl⟩ := h
          refine ⟨by rw [haccept]; rfl, fun terms hterms => (by cases hterms), fun x hx => ?_⟩
          cases hx
          exact hdigest
        · split at h
          · rename_i hcancel
            simp only [bind_ok] at h
            obtain ⟨-, -, h⟩ := h
            split at h
            · cases h
            · simp only [bind_ok, pure_ok] at h
              obtain ⟨digest, -, rfl⟩ := h
              exact ⟨by rw [hcancel]; rfl, fun terms hterms => (by cases hterms),
                fun x hx => (by cases hx)⟩
          · cases h
  · cases h

theorem proposal_digest {v : Option Json} {terms : NegotiationTermsV1}
    (h : normalizeNegotiationDocument host v = .ok d) (hterms : d.body.terms? = some terms) :
    ∃ digest, d.body.termsDigest? = some digest ∧ negotiationTermsDigest host terms = .ok digest := by
  obtain ⟨fields, base, -, -, hbody, -⟩ := normalizeDocument_ok h
  exact (normalizeBody_ok hbody).2.1 terms hterms

/-! ## Canonical texts -/

theorem sha256Digest_ok {v : Option Json} {label : String} (h : sha256Digest v label = .ok digest) :
    ∃ s, v = some (.string s) ∧ digest = toLowerCase s := by
  unfold sha256Digest lowered at h
  split at h
  · rename_i s
    split at h
    · cases h
      exact ⟨s, rfl, rfl⟩
    · cases h
  · cases h

theorem json_kind (d : NegotiationDocumentV1) :
    d.json.get? "kind" = some (.string d.body.kind) := by
  simp [NegotiationDocumentV1.json, Json.get?, List.lookup_cons]

theorem json_accepted (h : d.body = .accept digest) :
    d.json.get? "acceptedTermsDigest" = some (.string digest) := by
  simp [NegotiationDocumentV1.json, Json.get?, h, NegotiationBody.fields, List.lookup_cons]

theorem kind_accept {body : NegotiationBody} (h : body.kind = "accept".toList) :
    ∃ digest, body = .accept digest := by
  cases body with
  | accept digest => exact ⟨digest, rfl⟩
  | offer => exact absurd h (show "offer".toList ≠ "accept".toList by decide)
  | counter => exact absurd h (show "counter".toList ≠ "accept".toList by decide)
  | cancel => exact absurd h (show "cancel".toList ≠ "accept".toList by decide)

theorem renormalized_accept (hn : normalizeNegotiationDocument host (some d.json) = .ok n) :
    n.body.kind = d.body.kind ∧
      ∀ digest, d.body = .accept digest → n.body = .accept (toLowerCase digest) := by
  obtain ⟨fields, base, hfields, -, hbody, -⟩ := normalizeDocument_ok hn
  cases hfields
  obtain ⟨hkind, -, haccepted⟩ := normalizeBody_ok hbody
  have hsame : n.body.kind = d.body.kind := by
    have hkinds := hkind.symm.trans (json_kind d)
    rw [Option.some.injEq, Json.string.injEq] at hkinds
    exact hkinds
  refine ⟨hsame, fun digest hd => ?_⟩
  obtain ⟨x, hx⟩ := kind_accept (hsame.trans (by rw [hd]; rfl))
  obtain ⟨s, hs, hlower⟩ := sha256Digest_ok (haccepted x hx)
  have htext := hs.symm.trans (json_accepted hd)
  rw [Option.some.injEq, Json.string.injEq] at htext
  rw [hx, hlower, htext]

theorem normal_accept {v : Option Json} (h : normalizeNegotiationDocument host v = .ok d)
    (hd : d.body = .accept digest) : toLowerCase digest = digest := by
  obtain ⟨fields, base, -, -, hbody, -⟩ := normalizeDocument_ok h
  obtain ⟨s, -, rfl⟩ := sha256Digest_ok ((normalizeBody_ok hbody).2.2 digest hd)
  exact toLowerCase_toLowerCase s

theorem tree_accept (h : d₁.tree = d₂.tree) (hd : d₁.body = .accept digest) :
    d₂.body = .accept digest := by
  unfold NegotiationDocumentV1.tree at h
  rw [hd] at h
  cases hbody : d₂.body with
  | accept x =>
    rw [hbody] at h
    simp only [field, Tree.object.injEq, List.cons.injEq, Prod.mk.injEq, Tree.text.injEq,
      true_and] at h
    rw [h.1]
  | offer | counter | cancel =>
    rw [hbody] at h
    simp [field] at h

theorem canonical_accept {v₁ v₂ : Option Json} {text : Text}
    (h₁ : normalizeNegotiationDocument host v₁ = .ok d₁)
    (h₂ : normalizeNegotiationDocument host v₂ = .ok d₂)
    (hc₁ : canonicalNegotiationDocument host d₁ = .ok text)
    (hc₂ : canonicalNegotiationDocument host d₂ = .ok text) (hd : d₁.body = .accept digest) :
    d₂.body = .accept digest := by
  simp only [canonicalNegotiationDocument, bind_ok, pure_ok] at hc₁ hc₂
  obtain ⟨n₁, hn₁, rfl⟩ := hc₁
  obtain ⟨n₂, hn₂, htext⟩ := hc₂
  have htree := Tree.render_injective htext
  obtain ⟨-, haccept₁⟩ := renormalized_accept hn₁
  obtain ⟨hkind₂, haccept₂⟩ := renormalized_accept hn₂
  have hbody₂ : n₂.body = .accept digest := by
    rw [tree_accept htree (haccept₁ digest hd), normal_accept h₁ hd]
  obtain ⟨x, hx⟩ := kind_accept (hkind₂.symm.trans (by rw [hbody₂]; rfl))
  have hagain := (haccept₂ x hx).symm.trans hbody₂
  rw [normal_accept h₂ hx] at hagain
  rw [hx]
  exact hagain

end App20.Negotiation
