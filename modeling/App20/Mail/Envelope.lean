import App20.Lib.JsonParse
import App20.Lib.Utf8

/-!
# Envelopes of mail

A message is a version byte, a type byte and a JSON object in UTF-8. Bytes that do not start with the
version are text of the time before envelopes. The payload of a composite envelope is normalized
on both sides. How finite numbers are written and read is a parameter.

* `encodeEnvelope`, `envelopeByteLength`, `decodeEnvelope`: the functions.
-/

namespace App20.Mail

open App20.Lib App20.Domain

variable {N : Type}

/-! ## Types -/

def envelopeVersion : Fin 256 := 1
def maxCompositeEnvelopeBytes : Nat := 4293

inductive EnvelopeType where
  | text | offer | accept | decline | receipt | paymentRequest | escrowFund | escrowFill
  | escrowClaim | escrowTimeout | composite | contactSnapshot | backupSnapshot | backupPointer
  deriving DecidableEq

/-- `ENVELOPE_TYPE_BYTES` -/
def EnvelopeType.byte : EnvelopeType → Fin 256
  | .text => 0x01
  | .offer => 0x02
  | .accept => 0x03
  | .decline => 0x04
  | .receipt => 0x05
  | .paymentRequest => 0x06
  | .escrowFund => 0x07
  | .escrowFill => 0x08
  | .escrowClaim => 0x09
  | .escrowTimeout => 0x0a
  | .composite => 0x0b
  | .contactSnapshot => 0x0c
  | .backupSnapshot => 0x0d
  | .backupPointer => 0x0e

def EnvelopeType.all : List EnvelopeType :=
  [.text, .offer, .accept, .decline, .receipt, .paymentRequest, .escrowFund, .escrowFill,
    .escrowClaim, .escrowTimeout, .composite, .contactSnapshot, .backupSnapshot, .backupPointer]

/-- `TYPES_BY_BYTE` -/
def typesByByte (byte : Fin 256) : Option EnvelopeType :=
  EnvelopeType.all.find? fun type => decide (type.byte = byte)

theorem typesByByte_byte (type : EnvelopeType) : typesByByte type.byte = some type := by
  cases type <;> rfl

/-! ## Checks of values -/

mutual

def assertJsonSafe (path : Units) : JsValue N → Except Units Unit
  | .null | .string _ | .bool _ | .number _ => .ok ()
  | .nonFinite _ => .error (path ++ text " contains a non-finite number.")
  | .hole | .other => .error (path ++ text " contains a value that JSON cannot represent.")
  | .array items => assertItemsSafe path 0 items
  | .object kind fields => do
    throwIf (kind = .foreign) (path ++ text " must contain only plain JSON objects.")
    throwIf (kind = .symbolKeys) (path ++ text " contains a symbol key.")
    assertFieldsSafe path fields

def assertItemsSafe (path : Units) (index : Nat) : List (JsValue N) → Except Units Unit
  | [] => .ok ()
  | .hole :: _ => .error (path ++ text ("[" ++ toString index ++ "] is an array hole."))
  | item :: items => do
    assertJsonSafe (path ++ text ("[" ++ toString index ++ "]")) item
    assertItemsSafe path (index + 1) items

def assertFieldsSafe (path : Units) : List (Units × JsValue N) → Except Units Unit
  | [] => .ok ()
  | field :: fields => do
    assertJsonSafe (path ++ text "." ++ field.1) field.2
    assertFieldsSafe path fields

end

def objectFields : JsValue N → Option (List (Units × JsValue N))
  | .object _ fields => some fields
  | _ => none

def isJsonObject (value : JsValue N) : Bool := (objectFields value).isSome

def property (fields : List (Units × JsValue N)) (key : String) : Option (JsValue N) :=
  fields.lookup (text key)

/-! ## Texts of values -/

section Texts

variable (format : NumberFormat N)

mutual

/-- `String(value)`; what has no form in JSON counts as `undefined` here. -/
def stringOf : JsValue N → Units
  | .null => text "null"
  | .bool b => if b then text "true" else text "false"
  | .number n => toUnits (format.toText n)
  | .nonFinite .nan => text "NaN"
  | .nonFinite (.infinity negative) => if negative then text "-Infinity" else text "Infinity"
  | .string s => s
  | .array items => joinOf true items
  | .object _ _ => text "[object Object]"
  | .hole | .other => text "undefined"

/-- `join(",")`, from the `first` item on, or from a later one. -/
def joinOf (first : Bool) : List (JsValue N) → Units
  | [] => []
  | item :: items => (if first then [] else text ",") ++
      ((match item with
        | .null | .hole | .other => []
        | v => stringOf v) ++ joinOf false items)

end

end Texts

/-! ## Composite payloads -/

structure Attachment (N : Type) where
  type : JsValue N
  payload : JsValue N

structure CompositeWirePayload (N : Type) where
  documentId : Units
  body : Units
  attachments : List (Attachment N)
  conversationId : Option Units
  inReplyTo : Option Units
  senderAuth : Option (JsValue N)

/-- `/^0x[0-9a-fA-F]{64}$/` -/
def isDocumentId (s : Units) : Bool :=
  decide (s.length = 66 ∧ s.take 2 = text "0x") &&
    (s.drop 2).all fun u => isHexDigit (Char.ofNat u.val)

/-- `!text.trim()` -/
def isBlank (s : Units) : Bool := s.all fun u => isSpace (Char.ofNat u.val)

def attachmentTypes : List Units :=
  [text "payment", text "offer", text "payment_request", text "escrow_fund"]

/-- The types that were seen: a type that is no text is never found again. -/
def seenAfter (seen : List Units) (type : JsValue N) : List Units :=
  match type with
  | .string s => s :: seen
  | _ => seen

section Composite

variable (format : NumberFormat N)

def parseAttachments (seen : List Units) : List (JsValue N) → Option (List (Attachment N))
  | [] => some []
  | attachment :: rest => do
    let fields ← objectFields attachment
    let type ← property fields "type"
    let payload ← property fields "payload"
    guard (stringOf format type ∈ attachmentTypes ∧ stringOf format type ∉ seen ∧
      isJsonObject payload = true)
    let attachments ← parseAttachments (seenAfter seen type) rest
    return ⟨type, payload⟩ :: attachments

def textProperty (fields : List (Units × JsValue N)) (key : String) : Option Units :=
  match property fields key with
  | some (.string s) => some s
  | _ => none

def objectProperty (fields : List (Units × JsValue N)) (key : String) : Option (JsValue N) :=
  (property fields key).filter isJsonObject

def parseCompositeWirePayload (value : JsValue N) : Option (CompositeWirePayload N) := do
  let fields ← objectFields value
  let documentId ← textProperty fields "documentId"
  let body ← textProperty fields "body"
  guard (isDocumentId documentId = true ∧ body.length ≤ 4096)
  match property fields "attachments" with
  | some (.array items) =>
    guard (items.length ≤ 4)
    let attachments ← parseAttachments format [] items
    guard (¬ (isBlank body = true ∧ attachments = []))
    return ⟨documentId, body, attachments, textProperty fields "conversationId",
      textProperty fields "inReplyTo", objectProperty fields "senderAuth"⟩
  | _ => none

end Composite

def Attachment.toValue (a : Attachment N) : JsValue N :=
  .object .plain [(text "type", a.type), (text "payload", a.payload)]

def optionalField (key : String) (value : Option (JsValue N)) : List (Units × JsValue N) :=
  value.toList.map fun v => (text key, v)

def CompositeWirePayload.toValue (c : CompositeWirePayload N) : JsValue N :=
  .object .plain ([(text "documentId", .string c.documentId), (text "body", .string c.body),
    (text "attachments", .array (c.attachments.map Attachment.toValue))] ++
    optionalField "conversationId" (c.conversationId.map .string) ++
    optionalField "inReplyTo" (c.inReplyTo.map .string) ++ optionalField "senderAuth" c.senderAuth)

/-! ## Encoding -/

section Coding

variable (format : NumberFormat N)

def normalizedPayload (type : EnvelopeType) (payload : JsValue N) : Option (JsValue N) :=
  if type = .composite then
    (parseCompositeWirePayload format payload).map CompositeWirePayload.toValue
  else some payload

def serializeEnvelopePayload (type : EnvelopeType) (payload : JsValue N) :
    Except Units (Fin 256 × Bytes) := do
  throwIf (isJsonObject payload = false) (text "Envelope payload must be a JSON object.")
  match normalizedPayload format type payload with
  | none => .error (text "Composite envelope payload is invalid.")
  | some normalized =>
    assertJsonSafe (text "payload") normalized
    return (type.byte, encodeUtf8 (stringify format normalized))

def envelopeByteLength (type : EnvelopeType) (payload : JsValue N) : Except Units Nat := do
  let (_, payloadBytes) ← serializeEnvelopePayload format type payload
  return 2 + payloadBytes.length

def encodeEnvelope (type : EnvelopeType) (payload : JsValue N) : Except Units Bytes := do
  let (typeByte, payloadBytes) ← serializeEnvelopePayload format type payload
  throwIf (type = .composite ∧ maxCompositeEnvelopeBytes < 2 + payloadBytes.length)
    (text ("Composite document exceeds the 140-felt ciphertext cap; " ++
      "remove text or attachments."))
  return envelopeVersion :: typeByte :: payloadBytes

/-! ## Decoding -/

inductive UnsupportedReason where
  | unknownType | invalidPayload | invalidLegacyUtf8

/-- `version` 0 is text of the time before envelopes, and `version` 1 an envelope. -/
inductive DecodedMail (N : Type) where
  | legacyText (body : Units) (bytes : Bytes)
  | envelope (type : EnvelopeType) (payload : JsValue N) (bytes : Bytes)
  | unsupported (version : Fin 256) (reason : UnsupportedReason) (typeByte : Option (Fin 256))
    (bytes : Bytes)

/-- `fatalTextDecoder.decode`, which drops a byte order mark. -/
def decodeText (bytes : Bytes) : Option (List Char) :=
  decodeUtf8 (if bytes.take 3 = [0xef, 0xbb, 0xbf] then bytes.drop 3 else bytes)

def decodeEnvelope (bytes : Bytes) : DecodedMail N :=
  match bytes with
  | version :: typeByte :: rest =>
    if version = envelopeVersion then
      match typesByByte typeByte with
      | none => .unsupported envelopeVersion .unknownType (some typeByte) bytes
      | some type =>
        match (decodeText rest).bind (parseJson format) with
        | none => .unsupported envelopeVersion .invalidPayload (some typeByte) bytes
        | some payload =>
          if isJsonObject payload = true then
            match normalizedPayload format type payload with
            | some normalized => .envelope type normalized bytes
            | none => .unsupported envelopeVersion .invalidPayload (some typeByte) bytes
          else .unsupported envelopeVersion .invalidPayload (some typeByte) bytes
    else legacy bytes
  | _ => legacy bytes
where
  legacy (bytes : Bytes) : DecodedMail N :=
    match decodeText bytes with
    | some body => .legacyText (toUnits body) bytes
    | none => .unsupported 0 .invalidLegacyUtf8 none bytes

end Coding

end App20.Mail
