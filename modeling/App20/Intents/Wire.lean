import App20.Domain.Decimal
import App20.Intents.Texts
import App20.Lib.WireCodec
import App20.Reservation.Codec
import App20.Reservation.Lifecycle
import Mathlib.Tactic.FinCases

/-!
# RFQs on the wire

How the fields of objects on the wire are read, and the codec of RFQs of version 2. A field of
another type than the one expected is read as a value that the checks refuse.

* `rfqV2Codec_faithful`: the codec of RFQs.
-/

namespace App20.Intents

open App20.Lib App20.Domain
open App20.Reservation (isObject checkFields checkFields_ok requireText requireDigest
  requireText_again requireDigest_again requireText_ok_iff maxSafeInteger)

/-! ## Fields -/

def textOf (value : Option Json) : Text :=
  match value with
  | some (.string s) => s
  | _ => []

def numberOf (value : Option Json) : Int :=
  match value with
  | some (.number n) => n
  | _ => -1

/-- An amount, which is sent as a canonical decimal. -/
def wireAmount (value : Option Json) (message : String) : Except String Int :=
  match value with
  | some (.string s) => if isDecimal s then .ok (decimalValue s) else .error message
  | _ => .error message

theorem wireAmount_decimal {n : Int} (h : 0 ≤ n) (message : String) :
    wireAmount (some (.string (decimal n))) message = .ok n := by
  unfold wireAmount
  dsimp only
  rw [if_pos (isDecimal_decimal h), decimalValue_decimal h]

/-! ## Checks that are repeated -/

theorem requireRfqFelt_again {value felt : Text} {label : String}
    (h : requireRfqFelt value label = .ok felt) (l : String) : requireRfqFelt felt l = .ok felt := by
  unfold requireRfqFelt at h
  split at h
  · cases h
  · rename_i canonical hcanonical
    split at h
    · cases h
    · rename_i hzero
      cases h
      obtain ⟨hfelt, hlimit⟩ := canonicalizeStarknetFelt_spec hcanonical
      have hagain : canonicalizeStarknetFelt felt = some felt := by
        rw [hfelt]
        exact canonicalizeStarknetFelt_hex hlimit
      unfold requireRfqFelt
      rw [hagain]
      dsimp only
      rw [if_neg hzero]

theorem requireInteger_ok_iff {n m minimum : Int} {label : String} :
    requireInteger n label minimum = .ok m ↔ ¬ (n < minimum ∨ maxSafeInteger < n) ∧ m = n := by
  simp only [requireInteger, bind_ok, throwIf_ok, pure_ok, exists_const]

theorem requireBucketAmount_ok_iff {n m : Int} {label : String} :
    requireBucketAmount n label = .ok m ↔ ¬ (n ≤ 0 ∨ 2 ^ 128 - 1 < n) ∧ m = n := by
  simp only [requireBucketAmount, bind_ok, throwIf_ok, pure_ok, exists_const]

/-! ## RFQs -/

/-- `PRIVATE_RFQ_V2_WIRE_FIELDS` -/
def privateRfqV2WireFields : List String :=
  ["buyToken", "chainId", "createdAt", "directoryEpoch", "domain", "expiresAt", "lockExpiresAt",
    "registryRevision", "responseDeadline", "rfqFelt", "rfqId", "sellBucketMaxBaseUnits",
    "sellBucketMinBaseUnits", "sellToken", "settlementHelper", "takerCommitment", "version"]

/-- A canonical body as an object. -/
def PrivateRfqV2.wire (rfq : PrivateRfqV2) : Json :=
  .object [("buyToken", .string rfq.buyToken), ("chainId", .string rfq.chainId),
    ("createdAt", .number rfq.createdAt), ("directoryEpoch", .number rfq.directoryEpoch),
    ("domain", .string rfq.domain), ("expiresAt", .number rfq.expiresAt),
    ("lockExpiresAt", .number rfq.lockExpiresAt),
    ("registryRevision", .string rfq.registryRevision),
    ("responseDeadline", .number rfq.responseDeadline), ("rfqFelt", .string rfq.rfqFelt),
    ("rfqId", .string rfq.rfqId),
    ("sellBucketMaxBaseUnits", .string (decimal rfq.sellBucketMaxBaseUnits)),
    ("sellBucketMinBaseUnits", .string (decimal rfq.sellBucketMinBaseUnits)),
    ("sellToken", .string rfq.sellToken), ("settlementHelper", .string rfq.settlementHelper),
    ("takerCommitment", .string rfq.takerCommitment), ("version", .number rfq.version)]

def encodePrivateRfqV2 (rfq : PrivateRfqV2) : Except String Json := do
  let body ← canonicalPrivateRfqV2 rfq
  return body.wire

/-- The object that is read, before it is checked. -/
def readPrivateRfqV2 (value : Json) (sellBucketMinBaseUnits sellBucketMaxBaseUnits : Int) :
    PrivateRfqV2 where
  version := numberOf (value.get? "version")
  domain := textOf (value.get? "domain")
  rfqId := textOf (value.get? "rfqId")
  rfqFelt := textOf (value.get? "rfqFelt")
  takerCommitment := textOf (value.get? "takerCommitment")
  chainId := textOf (value.get? "chainId")
  registryRevision := textOf (value.get? "registryRevision")
  directoryEpoch := numberOf (value.get? "directoryEpoch")
  settlementHelper := textOf (value.get? "settlementHelper")
  sellToken := textOf (value.get? "sellToken")
  buyToken := textOf (value.get? "buyToken")
  sellBucketMinBaseUnits := sellBucketMinBaseUnits
  sellBucketMaxBaseUnits := sellBucketMaxBaseUnits
  createdAt := numberOf (value.get? "createdAt")
  responseDeadline := numberOf (value.get? "responseDeadline")
  expiresAt := numberOf (value.get? "expiresAt")
  lockExpiresAt := numberOf (value.get? "lockExpiresAt")

def decodePrivateRfqV2 (value : Json) : Except String PrivateRfqV2 := do
  throwIf (isObject value = false) "Private RFQ v2 wire payload must be an object."
  checkFields value privateRfqV2WireFields []
    (fun field => "Private RFQ v2 " ++ field ++ " is required.")
    (fun field => "Private RFQ v2 field " ++ field ++ " is unsupported.")
  let sellBucketMinBaseUnits ← wireAmount (value.get? "sellBucketMinBaseUnits")
    "Private RFQ v2 wire bucket amounts must be canonical decimal strings."
  let sellBucketMaxBaseUnits ← wireAmount (value.get? "sellBucketMaxBaseUnits")
    "Private RFQ v2 wire bucket amounts must be canonical decimal strings."
  let rfq := readPrivateRfqV2 value sellBucketMinBaseUnits sellBucketMaxBaseUnits
  let _ ← canonicalPrivateRfqV2 rfq
  return rfq

def rfqV2Codec : WireCodec String PrivateRfqV2 Json PrivateRfqV2 Unit where
  body := canonicalPrivateRfqV2
  stamp _ := .ok ()
  canonical body _ := body
  wire body _ := body.wire
  decode := decodePrivateRfqV2

theorem canonicalPrivateRfqV2_again {rfq body : PrivateRfqV2}
    (h : canonicalPrivateRfqV2 rfq = .ok body) :
    canonicalPrivateRfqV2 body = .ok body ∧ 0 ≤ body.sellBucketMinBaseUnits ∧
      0 ≤ body.sellBucketMaxBaseUnits := by
  simp only [canonicalPrivateRfqV2, bind_ok, throwIf_ok, pure_ok, exists_const,
    requireInteger_ok_iff, requirePool, requireBucketAmount_ok_iff] at h ⊢
  obtain ⟨hversion, _, ⟨hcreated, rfl⟩, _, ⟨hdeadline, rfl⟩, _, ⟨hexpires, rfl⟩, _, ⟨hlock, rfl⟩,
    hordered, hsame, sellToken, hsell, buyToken, hbuy, hdiffer, _, ⟨hmin, rfl⟩, _, ⟨hmax, rfl⟩,
    hbucket, _, ⟨hpool, rfl⟩, _, ⟨hepoch, rfl⟩, registryRevision, hregistry, rfqFelt, hfelt, rfqId,
    hid, settlementHelper, hhelper, takerCommitment, htaker, rfl⟩ := h
  refine ⟨⟨hversion, _, ⟨hcreated, rfl⟩, _, ⟨hdeadline, rfl⟩, _, ⟨hexpires, rfl⟩, _, ⟨hlock, rfl⟩,
    hordered, hsame, sellToken, requireRfqFelt_again hsell _, buyToken, requireRfqFelt_again hbuy _,
    hdiffer, _, ⟨hmin, rfl⟩, _, ⟨hmax, rfl⟩, hbucket, _, ⟨hpool, rfl⟩, _, ⟨hepoch, rfl⟩,
    registryRevision, requireText_again hregistry _, rfqFelt, requireRfqFelt_again hfelt _, rfqId,
    requireDigest_again hid _, settlementHelper, requireRfqFelt_again hhelper _, takerCommitment,
    requireRfqFelt_again htaker _, rfl⟩, ?_, ?_⟩
  · dsimp only
    omega
  · dsimp only
    omega

theorem decodePrivateRfqV2_wire {body : PrivateRfqV2} (h : canonicalPrivateRfqV2 body = .ok body)
    (hmin : 0 ≤ body.sellBucketMinBaseUnits) (hmax : 0 ≤ body.sellBucketMaxBaseUnits) :
    decodePrivateRfqV2 body.wire = .ok body := by
  have hread : readPrivateRfqV2 body.wire body.sellBucketMinBaseUnits
      body.sellBucketMaxBaseUnits = body := rfl
  have hminimum : body.wire.get? "sellBucketMinBaseUnits" =
      some (.string (decimal body.sellBucketMinBaseUnits)) := rfl
  have hmaximum : body.wire.get? "sellBucketMaxBaseUnits" =
      some (.string (decimal body.sellBucketMaxBaseUnits)) := rfl
  simp only [decodePrivateRfqV2, bind_ok, throwIf_ok, pure_ok, exists_const]
  refine ⟨Bool.noConfusion, (), checkFields_ok ?_ ?_, body.sellBucketMinBaseUnits, ?_,
    body.sellBucketMaxBaseUnits, ?_, body, ?_, ?_⟩
  · intro field hfield
    fin_cases hfield <;> rfl
  · intro field hfield
    exact List.mem_append_left _ hfield
  · rw [hminimum]
    exact wireAmount_decimal hmin _
  · rw [hmaximum]
    exact wireAmount_decimal hmax _
  · rw [hread]
    exact h
  · exact hread.symm

theorem rfqV2Codec_faithful : rfqV2Codec.Faithful where
  read := by
    intro rfq body s h
    obtain ⟨hagain, hmin, hmax⟩ := canonicalPrivateRfqV2_again h.body
    exact ⟨decodePrivateRfqV2_wire hagain hmin hmax, hagain, h.stamp⟩
  accepted := by
    intro w rfq h
    have h' : decodePrivateRfqV2 w = .ok rfq := h
    simp only [decodePrivateRfqV2, bind_ok, pure_ok] at h'
    obtain ⟨_, -, _, -, _, -, _, -, body, hbody, rfl⟩ := h'
    exact ⟨body, (), hbody, rfl⟩

end App20.Intents
