import App20.CrossChain.Timestamp
import App20.Lib.JsonParse
import App20.Lib.Utf8
import Mathlib.Algebra.Order.Ring.Unbundled.Rat

/-!
# Policy receipts

The receipt of a policy service about one action, and the evidence that attests the key it is signed
with. Both come as values of any shape.

* `assertPolicyReceipt`, `assertAttestationEvidence`: what is accepted.
* `policyReceiptSignedBytes_unsigned`: the bytes that are signed fix every field but the signature.
-/

namespace App20.Policy

open App20.Lib
open App20.Domain (isSpace isDecimal decimalValue)
open App20.CrossChain (Moment readMoment)

/-! ## Values -/

/-- A value of any shape; what has no form in JSON is one of `hole` and `other`. -/
abbrev Value := JsValue ℚ

abbrev Fields := List (Units × Value)

def record (value : Value) (label : String) : Except Units Fields :=
  match value with
  | .object _ fields => .ok fields
  | _ => .error (text (label ++ " must be an object."))

def strictKeys (value : Fields) (label : String) (keys : List String) : Except Units Unit :=
  match value.find? fun field => field.1 ∉ keys.map text with
  | some field =>
    .error (text (label ++ " contains an unrecognized field (") ++ field.1 ++ text ").")
  | none =>
    match keys.find? fun key => text key ∉ value.map Prod.fst with
    | some key => .error (text (label ++ " is missing required field " ++ key ++ "."))
    | none => .ok ()

/-- A property that is read. -/
def field (value : Fields) (key : String) : Option Value := value.lookup (text key)

def isNumber (value : Option Value) (n : ℚ) : Bool :=
  match value with
  | some (.number q) => decide (q = n)
  | _ => false

def isText (value : Option Value) (s : Units) : Bool :=
  match value with
  | some (.string t) => decide (t = s)
  | _ => false

def charOf (u : Fin 65536) : Char := Char.ofNat u.val

/-- `trim` -/
def trimUnits (s : Units) : Units :=
  (s.dropWhile fun u => isSpace (charOf u)).rdropWhile fun u => isSpace (charOf u)

/-- `/[\u0000-\u001f\u007f\s]/u` -/
def isBlank (u : Fin 65536) : Bool :=
  decide (u.val < 32) || decide (u.val = 127) || isSpace (charOf u)

def assertOpaqueValue (label : String) (value : Option Value) (maximumLength : Nat) :
    Except Units Units :=
  match value with
  | some (.string s) =>
    if s = [] ∨ maximumLength < s.length ∨ s ≠ trimUnits s ∨ s.any isBlank = true then
      .error (text (label ++ " is malformed."))
    else .ok s
  | _ => .error (text (label ++ " is malformed."))

/-- `null`, or as above. -/
def assertNullable (label : String) (value : Option Value) (maximumLength : Nat) :
    Except Units (Option Units) :=
  match value with
  | some .null => .ok none
  | value => (assertOpaqueValue label value maximumLength).map some

def maxSafeInteger : Int := 2 ^ 53 - 1

def assertSafeNonNegativeInteger (label : String) (value : Option Value) : Except Units Nat :=
  match value with
  | some (.number q) =>
    if q.den = 1 ∧ 0 ≤ q.num ∧ q.num ≤ maxSafeInteger then .ok q.num.toNat
    else .error (text (label ++ " must be a non-negative safe integer."))
  | _ => .error (text (label ++ " must be a non-negative safe integer."))

/-! ## Timestamps -/

/-- The time of a timestamp. A date that does not exist is none: it would be written otherwise. -/
def readTimestamp (s : Units) : Option Int :=
  ((readMoment (s.map charOf)).filter Moment.real).map Moment.time

abbrev Timestamp := {s : Units // (readTimestamp s).isSome = true}

def Timestamp.time (t : Timestamp) : Int := (readTimestamp t.1).get t.2

def parseTimestamp (label : String) (value : Option Value) : Except Units Timestamp :=
  match value with
  | some (.string s) =>
    if h : (readTimestamp s).isSome = true then .ok ⟨s, h⟩
    else if (readMoment (s.map charOf)).isNone = true then
      .error (text (label ++ " must be a canonical RFC 3339 UTC timestamp."))
    else .error (text (label ++ " must be a real canonical RFC 3339 UTC timestamp."))
  | _ => .error (text (label ++ " must be a canonical RFC 3339 UTC timestamp."))

/-! ## Counters -/

/-- `/^(0|[1-9][0-9]*)$/`, of 128 digits at most. -/
def isCounter (s : Units) : Bool := decide (s.length ≤ 128) && isDecimal (s.map charOf)

abbrev Counter := {s : Units // isCounter s = true}

def Counter.value (c : Counter) : Int := decimalValue (c.1.map charOf)

def assertCanonicalCounter (value : Option Value) : Except Units Counter :=
  match value with
  | some (.string s) =>
    if h : isCounter s = true then .ok ⟨s, h⟩
    else .error (text "Policy receipt monotonicCounter must be a bounded canonical integer.")
  | _ => .error (text "Policy receipt monotonicCounter must be a bounded canonical integer.")

/-! ## Receipts -/

/-- `APP20_POLICY_RECEIPT_DOMAIN` -/
def policyReceiptDomain : Units := text "app20/policy-receipt/v1"

inductive Decision where
  | allow | deny
  deriving DecidableEq

def Decision.text : Decision → Units
  | .allow => Lib.text "allow"
  | .deny => Lib.text "deny"

/-- A receipt that was checked; its version is 1, and its domain `policyReceiptDomain`. -/
structure PolicyReceiptV1 where
  workflowId : Units
  workflowEpoch : Nat
  intentDigest : Units
  revision : Nat
  executionDigest : Units
  quoteDigest : Option Units
  policyVersion : Units
  attestationVendor : Units
  attestationChallenge : Units
  attestationEvidenceDigest : Units
  enclaveMeasurement : Units
  attestedEphemeralKey : Units
  decision : Decision
  constraintDigest : Units
  nonce : Units
  monotonicCounter : Counter
  issuedAt : Timestamp
  expiresAt : Timestamp
  signature : Units
  window : issuedAt.time < expiresAt.time

def receiptFields : List String :=
  ["version", "domain", "workflowId", "workflowEpoch", "intentDigest", "revision",
    "executionDigest", "quoteDigest", "policyVersion", "attestationVendor", "attestationChallenge",
    "attestationEvidenceDigest", "enclaveMeasurement", "attestedEphemeralKey", "decision",
    "constraintDigest", "nonce", "monotonicCounter", "issuedAt", "expiresAt", "signature"]

def assertDecision (value : Option Value) : Except Units Decision :=
  if isText value Decision.allow.text then .ok .allow
  else if isText value Decision.deny.text then .ok .deny
  else .error (text "Policy receipt decision is not supported.")

/-- The checks of `assertPolicyReceipt`, and the copy that `snapshotReceipt` makes. -/
def assertPolicyReceipt (value : Value) : Except Units PolicyReceiptV1 := do
  let receipt ← record value "PolicyReceiptV1"
  strictKeys receipt "PolicyReceiptV1" receiptFields
  throwIf (isNumber (field receipt "version") 1 = false ∨
      isText (field receipt "domain") policyReceiptDomain = false)
    (text "Unsupported APP20 policy receipt version or domain.")
  let string := fun (name : String) =>
    assertOpaqueValue ("Policy receipt " ++ name) (field receipt name)
  let workflowEpoch ← assertSafeNonNegativeInteger "Policy receipt workflowEpoch"
    (field receipt "workflowEpoch")
  let revision ← assertSafeNonNegativeInteger "Policy receipt revision" (field receipt "revision")
  let workflowId ← string "workflowId" 256
  let intentDigest ← string "intentDigest" 1024
  let executionDigest ← string "executionDigest" 1024
  let policyVersion ← string "policyVersion" 256
  let attestationVendor ← string "attestationVendor" 256
  let attestationChallenge ← string "attestationChallenge" 1024
  let attestationEvidenceDigest ← string "attestationEvidenceDigest" 1024
  let enclaveMeasurement ← string "enclaveMeasurement" 2048
  let attestedEphemeralKey ← string "attestedEphemeralKey" 4096
  let constraintDigest ← string "constraintDigest" 1024
  let nonce ← string "nonce" 1024
  let signature ← string "signature" 8192
  let quoteDigest ← assertNullable "Policy receipt quoteDigest" (field receipt "quoteDigest") 1024
  let decision ← assertDecision (field receipt "decision")
  let monotonicCounter ← assertCanonicalCounter (field receipt "monotonicCounter")
  let issuedAt ← parseTimestamp "receipt.issuedAt" (field receipt "issuedAt")
  let expiresAt ← parseTimestamp "receipt.expiresAt" (field receipt "expiresAt")
  if window : issuedAt.time < expiresAt.time then
    return { workflowId, workflowEpoch, intentDigest, revision, executionDigest, quoteDigest,
             policyVersion, attestationVendor, attestationChallenge, attestationEvidenceDigest,
             enclaveMeasurement, attestedEphemeralKey, decision, constraintDigest, nonce,
             monotonicCounter, issuedAt, expiresAt, signature, window }
  else .error (text "Policy receipt validity window is invalid.")

/-! ## Evidence -/

inductive SecurityStatus where
  | upToDate | outOfDate | revoked | unknown
  deriving DecidableEq

def SecurityStatus.text : SecurityStatus → Units
  | .upToDate => Lib.text "up-to-date"
  | .outOfDate => Lib.text "out-of-date"
  | .revoked => Lib.text "revoked"
  | .unknown => Lib.text "unknown"

structure AttestationEvidence where
  vendor : Units
  measurement : Units
  ephemeralKey : Units
  challenge : Units
  issuedAt : Timestamp
  expiresAt : Timestamp
  debug : Bool
  securityStatus : SecurityStatus
  evidenceDigest : Units
  rawEvidence : Value
  window : issuedAt.time < expiresAt.time

def evidenceFields : List String :=
  ["vendor", "measurement", "ephemeralKey", "challenge", "issuedAt", "expiresAt", "debug",
    "securityStatus", "evidenceDigest", "rawEvidence"]

def assertSecurityStatus (value : Option Value) : Except Units SecurityStatus :=
  match [SecurityStatus.upToDate, .outOfDate, .revoked, .unknown].find? fun status =>
      isText value status.text with
  | some status => .ok status
  | none => .error (text "Attestation evidence securityStatus is not supported.")

def assertDebug (value : Option Value) : Except Units Bool :=
  match value with
  | some (.bool b) => .ok b
  | _ => .error (text "Attestation evidence debug must be a boolean.")

/-- What the host gives: the bytes of a buffer, and the copy of a value, where it can be copied. -/
structure Host where
  byteLength : Value → Option Nat
  structuredClone : Value → Option Value

def snapshotRaw (host : Host) (rawEvidence : Value) : Except Units Value := do
  let tooLarge : Bool := match rawEvidence with
    | .string s => decide (262144 < s.length)
    | value => (host.byteLength value).any fun n => decide (262144 < n)
  throwIf (tooLarge = true) (text "Attestation evidence rawEvidence is too large.")
  match host.structuredClone rawEvidence with
  | some copy => return copy
  | none => .error (text "Attestation evidence rawEvidence cannot be snapshotted.")

def assertAttestationEvidence (value : Value) : Except Units AttestationEvidence := do
  let evidence ← record value "AttestationEvidence"
  strictKeys evidence "AttestationEvidence" evidenceFields
  let string := fun (name : String) =>
    assertOpaqueValue ("Attestation evidence " ++ name) (field evidence name)
  let vendor ← string "vendor" 256
  let measurement ← string "measurement" 2048
  let ephemeralKey ← string "ephemeralKey" 4096
  let challenge ← string "challenge" 1024
  let evidenceDigest ← string "evidenceDigest" 1024
  let debug ← assertDebug (field evidence "debug")
  let securityStatus ← assertSecurityStatus (field evidence "securityStatus")
  let issuedAt ← parseTimestamp "evidence.issuedAt" (field evidence "issuedAt")
  let expiresAt ← parseTimestamp "evidence.expiresAt" (field evidence "expiresAt")
  if window : issuedAt.time < expiresAt.time then
    return { vendor, measurement, ephemeralKey, challenge, issuedAt, expiresAt, debug,
             securityStatus, evidenceDigest, window
             rawEvidence := (field evidence "rawEvidence").getD .other }
  else .error (text "Attestation evidence validity window is invalid.")

def snapshotEvidence (host : Host) (evidence : AttestationEvidence) :
    Except Units AttestationEvidence := do
  let rawEvidence ← snapshotRaw host evidence.rawEvidence
  return { evidence with rawEvidence }

/-! ## The bytes that are signed -/

def PolicyReceiptV1.unsigned (r : PolicyReceiptV1) : PolicyReceiptV1 := { r with signature := [] }

def quoteValue : Option Units → JsValue Int
  | some quote => .string quote
  | none => .null

/-- The object that is written; it has no signature. -/
def PolicyReceiptV1.toValue (r : PolicyReceiptV1) : JsValue Int :=
  .object .plain
    [(text "domain", .string policyReceiptDomain), (text "version", .number 1),
      (text "workflowId", .string r.workflowId), (text "workflowEpoch", .number r.workflowEpoch),
      (text "intentDigest", .string r.intentDigest), (text "revision", .number r.revision),
      (text "executionDigest", .string r.executionDigest),
      (text "quoteDigest", quoteValue r.quoteDigest),
      (text "policyVersion", .string r.policyVersion),
      (text "attestationVendor", .string r.attestationVendor),
      (text "attestationChallenge", .string r.attestationChallenge),
      (text "attestationEvidenceDigest", .string r.attestationEvidenceDigest),
      (text "enclaveMeasurement", .string r.enclaveMeasurement),
      (text "attestedEphemeralKey", .string r.attestedEphemeralKey),
      (text "decision", .string r.decision.text),
      (text "constraintDigest", .string r.constraintDigest), (text "nonce", .string r.nonce),
      (text "monotonicCounter", .string r.monotonicCounter.1),
      (text "issuedAt", .string r.issuedAt.1), (text "expiresAt", .string r.expiresAt.1)]

def canonicalizePolicyReceipt (r : PolicyReceiptV1) : List Char := stringify integerFormat r.toValue

def policyReceiptSignedBytes (r : PolicyReceiptV1) : Bytes :=
  encodeUtf8 (canonicalizePolicyReceipt r)

theorem written_quoteValue (quote : Option Units) :
    (quoteValue quote).Ordered ∧ (quoteValue quote).every JsValue.isData = true ∧
      (quoteValue quote).every JsValue.isFinite = true := by
  cases quote with
  | none | some => exact ⟨trivial, rfl, rfl⟩

def writtenKeys : List Units :=
  ["domain", "version", "workflowId", "workflowEpoch", "intentDigest", "revision",
    "executionDigest", "quoteDigest", "policyVersion", "attestationVendor", "attestationChallenge",
    "attestationEvidenceDigest", "enclaveMeasurement", "attestedEphemeralKey", "decision",
    "constraintDigest", "nonce", "monotonicCounter", "issuedAt", "expiresAt"].map text

theorem writtenKeys_pairwise : writtenKeys.Pairwise Follows := by decide +kernel

theorem written_toValue (r : PolicyReceiptV1) : Written r.toValue := by
  obtain ⟨hordered, hdata, hfinite⟩ := written_quoteValue r.quoteDigest
  refine ⟨⟨writtenKeys_pairwise, ?_⟩, ?_, ?_⟩
  · simp only [JsValue.OrderedFields, JsValue.Ordered, hordered, and_self]
  · simp only [PolicyReceiptV1.toValue, JsValue.every, JsValue.everyField, JsValue.isData, hdata,
      decide_true, Bool.and_self]
  · simp only [PolicyReceiptV1.toValue, JsValue.every, JsValue.everyField, JsValue.isFinite,
      hfinite, Bool.and_self]

theorem quoteValue_injective : Function.Injective quoteValue := by
  intro a b h
  cases a with
  | none =>
    cases b with
    | none => rfl
    | some b => cases h
  | some a =>
    cases b with
    | none => cases h
    | some b => exact congrArg some (JsValue.string.inj h)

theorem decision_text_injective : Function.Injective Decision.text := by
  have hne : Decision.allow.text ≠ Decision.deny.text := by decide
  intro a b h
  cases a <;> cases b
  · rfl
  · exact absurd h hne
  · exact absurd h.symm hne
  · rfl

/-- The bytes fix every field but the signature. -/
theorem unsigned_of_signedBytes {r r' : PolicyReceiptV1}
    (h : policyReceiptSignedBytes r = policyReceiptSignedBytes r') : r.unsigned = r'.unsigned := by
  have hvalue : r.toValue = r'.toValue := stringify_injective integerFormat_lawful
    (written_toValue r) (written_toValue r') (encodeUtf8_injective h)
  simp only [PolicyReceiptV1.toValue, JsValue.object.injEq, List.cons.injEq, Prod.mk.injEq,
    JsValue.string.injEq, JsValue.number.injEq, Int.natCast_inj, true_and, and_true,
    quoteValue_injective.eq_iff, decision_text_injective.eq_iff, Subtype.coe_inj] at hvalue
  simp only [PolicyReceiptV1.unsigned, hvalue]

end App20.Policy
