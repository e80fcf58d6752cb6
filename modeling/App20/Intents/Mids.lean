import App20.Intents.Wire

/-!
# Indicative mids

The mid price that a maker signs, its canonical text and its codec.

* `midCodec_faithful`: the codec of mids.
-/

namespace App20.Intents

open App20.Lib App20.Domain
open App20.Reservation (isObject checkFields checkFields_ok requireText requireTimestamp
  requireText_again requireTimestamp_ok_iff maxU256)

/-! ## Signatures -/

def p256Order : Nat := 0xffffffff00000000ffffffffffffffffbce6faada7179e84f3b9cac2fc632551
def p256HalfOrder : Nat := p256Order / 2

/-- Two words in lower case, of which the second is the smaller of its two forms. -/
def isCanonicalQuoteSignature (signature : Text) : Bool :=
  match signature with
  | '0' :: 'x' :: ds =>
    let r := ofDigits 16 (ds.take 64)
    let s := ofDigits 16 (ds.drop 64)
    decide (ds.length = 128) && ds.all isLowerHexDigit &&
      decide (0 < r ∧ r < p256Order ∧ 0 < s ∧ s ≤ p256HalfOrder)
  | _ => false

/-- The check of a signature, which is sent as it is. -/
def requireSignature (signature : Text) (message : String) : Except String Text := do
  throwIf (isCanonicalQuoteSignature signature = false) message
  return signature

theorem requireSignature_ok_iff {signature s : Text} {message : String} :
    requireSignature signature message = .ok s ↔
      isCanonicalQuoteSignature signature = true ∧ s = signature := by
  simp only [requireSignature, bind_ok, throwIf_ok, pure_ok, exists_const, Bool.not_eq_false]

/-! ## Mids -/

structure UnsignedMakerIndicativeMidV1 where
  version : Int
  domain : Text
  makerId : Text
  quoteKeyId : Text
  marketId : Text
  midE18 : Int
  observedAt : Int
  validUntil : Int
  deriving DecidableEq

structure MakerIndicativeMidV1 extends UnsignedMakerIndicativeMidV1 where
  signature : Text
  deriving DecidableEq

def makerMidDomain : Text := "app20/maker-indicative-mid/v1".toList

/-- `canonicalBody` of mids. -/
def canonicalMid (mid : UnsignedMakerIndicativeMidV1) :
    Except String UnsignedMakerIndicativeMidV1 := do
  throwIf (mid.version ≠ 1 ∨ mid.domain ≠ makerMidDomain)
    "Only maker indicative mid v1 is supported."
  throwIf (mid.marketId ≠ "STRK_USDC".toList) "Maker mid marketId must be STRK_USDC."
  throwIf (mid.midE18 ≤ 0 ∨ maxU256 < mid.midE18) "midE18 must be a positive u256 value."
  let observedAt ← requireTimestamp (.number mid.observedAt) "observedAt"
  let validUntil ← requireTimestamp (.number mid.validUntil) "validUntil"
  throwIf (validUntil ≤ observedAt) "Maker mid validUntil must be after observedAt."
  let makerId ← requireText mid.makerId "makerId"
  let quoteKeyId ← requireText mid.quoteKeyId "quoteKeyId"
  return ⟨mid.version, mid.domain, makerId, quoteKeyId, mid.marketId, mid.midE18, observedAt,
    validUntil⟩

/-- What is written of a canonical mid. -/
def UnsignedMakerIndicativeMidV1.tree (mid : UnsignedMakerIndicativeMidV1) : Tree :=
  .object [field "domain" (.text mid.domain), field "makerId" (.text mid.makerId),
    field "marketId" (.text mid.marketId), field "midE18" (amount mid.midE18),
    field "observedAt" (.number mid.observedAt), field "quoteKeyId" (.text mid.quoteKeyId),
    field "validUntil" (.number mid.validUntil), field "version" (.number mid.version)]

theorem UnsignedMakerIndicativeMidV1.tree_injective :
    Function.Injective UnsignedMakerIndicativeMidV1.tree := by
  intro x y h
  cases x
  cases y
  simp only [UnsignedMakerIndicativeMidV1.tree, field, Tree.object.injEq, List.cons.injEq,
    Prod.mk.injEq, amount_injective.eq_iff, Tree.text.injEq, Tree.number.injEq, true_and,
    and_true] at h
  grind

/-! ## The codec -/

/-- `MID_WIRE_FIELDS` -/
def midWireFields : List String :=
  ["domain", "makerId", "marketId", "midE18", "observedAt", "quoteKeyId", "signature",
    "validUntil", "version"]

def UnsignedMakerIndicativeMidV1.wire (mid : UnsignedMakerIndicativeMidV1) (signature : Text) :
    Json :=
  .object [("domain", .string mid.domain), ("makerId", .string mid.makerId),
    ("marketId", .string mid.marketId), ("midE18", .string (decimal mid.midE18)),
    ("observedAt", .number mid.observedAt), ("quoteKeyId", .string mid.quoteKeyId),
    ("validUntil", .number mid.validUntil), ("version", .number mid.version),
    ("signature", .string signature)]

def encodeMakerMid (mid : MakerIndicativeMidV1) : Except String Json := do
  let body ← canonicalMid mid.toUnsignedMakerIndicativeMidV1
  let signature ← requireSignature mid.signature
    "Maker mid signature must use canonical raw low-S P-256 encoding."
  return body.wire signature

/-- The object that is read, before it is checked. -/
def readMid (value : Json) (midE18 : Int) : MakerIndicativeMidV1 where
  version := numberOf (value.get? "version")
  domain := textOf (value.get? "domain")
  makerId := textOf (value.get? "makerId")
  quoteKeyId := textOf (value.get? "quoteKeyId")
  marketId := textOf (value.get? "marketId")
  midE18 := midE18
  observedAt := numberOf (value.get? "observedAt")
  validUntil := numberOf (value.get? "validUntil")
  signature := textOf (value.get? "signature")

def decodeMakerMid (value : Json) : Except String MakerIndicativeMidV1 := do
  throwIf (isObject value = false) "Maker mid wire payload must be an object."
  checkFields value midWireFields [] (fun field => "Maker mid " ++ field ++ " is required.")
    (fun field => "Maker mid field " ++ field ++ " is unsupported.")
  let midE18 ← wireAmount (value.get? "midE18")
    "Maker mid wire midE18 must be a canonical decimal string."
  let mid := readMid value midE18
  let _ ← requireSignature mid.signature
    "Maker mid signature must use canonical raw low-S P-256 encoding."
  let _ ← canonicalMid mid.toUnsignedMakerIndicativeMidV1
  return mid

def midCodec : WireCodec String MakerIndicativeMidV1 Json UnsignedMakerIndicativeMidV1 Text where
  body mid := canonicalMid mid.toUnsignedMakerIndicativeMidV1
  stamp mid := requireSignature mid.signature
    "Maker mid signature must use canonical raw low-S P-256 encoding."
  canonical body signature := { body with signature }
  wire body signature := body.wire signature
  decode := decodeMakerMid

theorem canonicalMid_again {mid body : UnsignedMakerIndicativeMidV1}
    (h : canonicalMid mid = .ok body) : canonicalMid body = .ok body ∧ 0 ≤ body.midE18 := by
  simp only [canonicalMid, bind_ok, throwIf_ok, pure_ok, exists_const,
    requireTimestamp_ok_iff] at h ⊢
  obtain ⟨hversion, hmarket, hmid, _, ⟨hobserved, hsafe, rfl⟩, _, ⟨hvalid, hsafe', rfl⟩, hordered,
    makerId, hmaker, quoteKeyId, hkey, rfl⟩ := h
  refine ⟨⟨hversion, hmarket, hmid, _, ⟨hobserved, hsafe, rfl⟩, _, ⟨hvalid, hsafe', rfl⟩, hordered,
    makerId, requireText_again hmaker _, quoteKeyId, requireText_again hkey _, rfl⟩, ?_⟩
  dsimp only
  omega

theorem decodeMakerMid_wire {body : UnsignedMakerIndicativeMidV1} {signature : Text}
    (h : canonicalMid body = .ok body) (hmid : 0 ≤ body.midE18)
    (hsignature : isCanonicalQuoteSignature signature = true) :
    decodeMakerMid (body.wire signature) = .ok { body with signature } := by
  have hread : readMid (body.wire signature) body.midE18 = { body with signature } := rfl
  have hkeys : (body.wire signature).keys = ["domain", "makerId", "marketId", "midE18",
    "observedAt", "quoteKeyId", "validUntil", "version", "signature"] := rfl
  have hamount : (body.wire signature).get? "midE18" = some (.string (decimal body.midE18)) := rfl
  simp only [decodeMakerMid, bind_ok, throwIf_ok, pure_ok, exists_const]
  refine ⟨Bool.noConfusion, (), checkFields_ok ?_ ?_, body.midE18, ?_, signature, ?_, body, ?_, ?_⟩
  · intro field hfield
    fin_cases hfield <;> rfl
  · rw [hkeys]
    decide
  · rw [hamount]
    exact wireAmount_decimal hmid _
  · rw [hread]
    exact requireSignature_ok_iff.mpr ⟨hsignature, rfl⟩
  · rw [hread]
    exact h
  · exact hread.symm

theorem midCodec_faithful : midCodec.Faithful where
  read := by
    intro mid body signature h
    obtain ⟨hagain, hmid⟩ := canonicalMid_again h.body
    obtain ⟨hcanonical, rfl⟩ := requireSignature_ok_iff.mp h.stamp
    exact ⟨decodeMakerMid_wire hagain hmid hcanonical, hagain,
      requireSignature_ok_iff.mpr ⟨hcanonical, rfl⟩⟩
  accepted := by
    intro w mid h
    have h' : decodeMakerMid w = .ok mid := h
    simp only [decodeMakerMid, bind_ok, pure_ok] at h'
    obtain ⟨_, -, _, -, _, -, signature, hsignature, body, hbody, rfl⟩ := h'
    exact ⟨body, signature, hbody, hsignature⟩

end App20.Intents
