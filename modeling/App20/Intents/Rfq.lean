import App20.Reservation.Protocol

/-!
# Requests for quotes

The checks on private RFQs of both versions, and the ladder of reviewed size buckets.
-/

namespace App20.Intents

open App20.Lib App20.Domain
open App20.Reservation (maxSafeInteger)

def requirePool (value : Text) : Except String Text := do
  throwIf (value ≠ "starknet:SN_MAIN".toList ∧ value ≠ "starknet:SN_SEPOLIA".toList ∧
      value ≠ "starknet:APP20_LOCALNET".toList)
    "chainId must name a supported STRK20 deployment."
  return value

def maxRfqLifetimeSeconds : Int := 24 * 60 * 60

/-! ## Version 1 -/

structure PrivateRfq where
  version : Int
  domain : Text
  rfqId : Text
  intentDigest : Text
  chainId : Text
  registryRevision : Text
  directoryEpoch : Int
  settlementHelper : Text
  sellToken : Text
  sellAmountBaseUnits : Int
  buyToken : Text
  minBuyAmountBaseUnits : Int
  createdAt : Int
  responseDeadline : Int
  expiresAt : Int

section

open App20.Reservation (requireText requireFelt requireDigest requirePositiveU256 requireTimestamp)

def privateRfqDomain : Text := "app20/private-rfq/v1".toList

def requireSafeNonNegative (value : Int) (label : String) : Except String Int := do
  throwIf (value < 0 ∨ maxSafeInteger < value) (label ++ " must be a non-negative safe integer.")
  return value

/-- `canonicalPrivateRfq`: the fields of the canonical text, which determine it. -/
def canonicalPrivateRfq (rfq : PrivateRfq) : Except String PrivateRfq := do
  throwIf (rfq.version ≠ 1 ∨ rfq.domain ≠ privateRfqDomain) "Only private RFQ v1 is supported."
  let createdAt ← requireTimestamp (.number rfq.createdAt) "createdAt"
  let responseDeadline ← requireTimestamp (.number rfq.responseDeadline) "responseDeadline"
  let expiresAt ← requireTimestamp (.number rfq.expiresAt) "expiresAt"
  throwIf (responseDeadline ≤ createdAt ∨ expiresAt ≤ responseDeadline ∨
      maxRfqLifetimeSeconds < expiresAt - createdAt)
    "RFQ deadlines must be ordered and bounded to 24 hours."
  let sellToken ← requireFelt rfq.sellToken "sellToken"
  let buyToken ← requireFelt rfq.buyToken "buyToken"
  throwIf (sellToken = buyToken) "sellToken and buyToken must differ."
  let chainId ← requirePool rfq.chainId
  let directoryEpoch ← requireSafeNonNegative rfq.directoryEpoch "directoryEpoch"
  let intentDigest ← requireDigest rfq.intentDigest "intentDigest"
  let minBuyAmountBaseUnits ←
    requirePositiveU256 rfq.minBuyAmountBaseUnits "minBuyAmountBaseUnits"
  let registryRevision ← requireText rfq.registryRevision "registryRevision"
  let rfqId ← requireDigest rfq.rfqId "rfqId"
  let sellAmountBaseUnits ← requirePositiveU256 rfq.sellAmountBaseUnits "sellAmountBaseUnits"
  let settlementHelper ← requireFelt rfq.settlementHelper "settlementHelper"
  return ⟨rfq.version, rfq.domain, rfqId, intentDigest, chainId, registryRevision, directoryEpoch,
    settlementHelper, sellToken, sellAmountBaseUnits, buyToken, minBuyAmountBaseUnits, createdAt,
    responseDeadline, expiresAt⟩

end

/-! ## Version 2 -/

structure PrivateRfqV2 where
  version : Int
  domain : Text
  rfqId : Text
  rfqFelt : Text
  takerCommitment : Text
  chainId : Text
  registryRevision : Text
  directoryEpoch : Int
  settlementHelper : Text
  sellToken : Text
  buyToken : Text
  sellBucketMinBaseUnits : Int
  sellBucketMaxBaseUnits : Int
  createdAt : Int
  responseDeadline : Int
  expiresAt : Int
  lockExpiresAt : Int

def privateRfqV2Domain : Text := "app20/private-rfq/v2".toList

/-- `requireFelt` of version 2, which is never asked to allow zero here. -/
def requireRfqFelt (value : Text) (label : String) : Except String Text :=
  match canonicalizeStarknetFelt value with
  | none => .error (label ++ " must be a Starknet felt.")
  | some felt =>
    if felt = "0x0".toList then .error (label ++ " must not be zero.")
    else .ok felt

def requireInteger (value : Int) (label : String) (minimum : Int) : Except String Int := do
  throwIf (value < minimum ∨ maxSafeInteger < value)
    (label ++ " must be a safe integer >= " ++ toString minimum ++ ".")
  return value

def requireBucketAmount (value : Int) (label : String) : Except String Int := do
  throwIf (value ≤ 0 ∨ 2 ^ 128 - 1 < value) (label ++ " must be a positive u128 value.")
  return value

/-- `canonicalBody` -/
def canonicalPrivateRfqV2 (rfq : PrivateRfqV2) : Except String PrivateRfqV2 := do
  throwIf (rfq.version ≠ 2 ∨ rfq.domain ≠ privateRfqV2Domain) "Only private RFQ v2 is supported."
  let createdAt ← requireInteger rfq.createdAt "createdAt" 1
  let responseDeadline ← requireInteger rfq.responseDeadline "responseDeadline" 1
  let expiresAt ← requireInteger rfq.expiresAt "expiresAt" 1
  let lockExpiresAt ← requireInteger rfq.lockExpiresAt "lockExpiresAt" 1
  throwIf (responseDeadline ≤ createdAt ∨ expiresAt ≤ responseDeadline ∨
      maxRfqLifetimeSeconds < expiresAt - createdAt)
    "RFQ v2 deadlines must be ordered and bounded to 24 hours."
  throwIf (lockExpiresAt ≠ expiresAt) "lockExpiresAt must equal the RFQ expiresAt timestamp."
  let sellToken ← requireRfqFelt rfq.sellToken "sellToken"
  let buyToken ← requireRfqFelt rfq.buyToken "buyToken"
  throwIf (sellToken = buyToken) "sellToken and buyToken must differ."
  let sellBucketMinBaseUnits ←
    requireBucketAmount rfq.sellBucketMinBaseUnits "sellBucketMinBaseUnits"
  let sellBucketMaxBaseUnits ←
    requireBucketAmount rfq.sellBucketMaxBaseUnits "sellBucketMaxBaseUnits"
  throwIf (sellBucketMaxBaseUnits ≤ sellBucketMinBaseUnits)
    "RFQ v2 size bucket maximum must be greater than its minimum."
  let chainId ← requirePool rfq.chainId
  let directoryEpoch ← requireInteger rfq.directoryEpoch "directoryEpoch" 0
  let registryRevision ← Reservation.requireText rfq.registryRevision "registryRevision"
  let rfqFelt ← requireRfqFelt rfq.rfqFelt "rfqFelt"
  let rfqId ← Reservation.requireDigest rfq.rfqId "rfqId"
  let settlementHelper ← requireRfqFelt rfq.settlementHelper "settlementHelper"
  let takerCommitment ← requireRfqFelt rfq.takerCommitment "takerCommitment"
  return ⟨rfq.version, rfq.domain, rfqId, rfqFelt, takerCommitment, chainId, registryRevision,
    directoryEpoch, settlementHelper, sellToken, buyToken, sellBucketMinBaseUnits,
    sellBucketMaxBaseUnits, createdAt, responseDeadline, expiresAt, lockExpiresAt⟩

/-! ## Size buckets -/

inductive SizeBucketSymbol where
  | strk | usdc

structure SizeBucket where
  min : Int
  max : Int
  deriving DecidableEq

def SizeBucketSymbol.name : SizeBucketSymbol → String
  | .strk => "STRK"
  | .usdc => "USDC"

/-- `SIZE_BUCKET_LADDER` -/
def SizeBucketSymbol.ladder : SizeBucketSymbol → List SizeBucket
  | .strk =>
    let strk : Int := 10 ^ 18
    [⟨strk / 20, strk / 10⟩, ⟨strk / 10, strk / 4⟩, ⟨strk / 4, strk / 2⟩, ⟨strk / 2, strk⟩,
      ⟨strk, strk * 5 / 2⟩, ⟨strk * 5 / 2, strk * 5⟩, ⟨strk * 5, strk * 10⟩,
      ⟨strk * 10, strk * 25⟩, ⟨strk * 25, strk * 50⟩]
  | .usdc =>
    let usdc : Int := 10 ^ 6
    [⟨usdc / 10, usdc / 5⟩, ⟨usdc / 5, usdc / 2⟩, ⟨usdc / 2, usdc⟩, ⟨usdc, usdc * 5 / 2⟩,
      ⟨usdc * 5 / 2, usdc * 5⟩, ⟨usdc * 5, usdc * 10⟩, ⟨usdc * 10, usdc * 25⟩,
      ⟨usdc * 25, usdc * 50⟩, ⟨usdc * 50, usdc * 100⟩]

def assertLadderBucket (symbol : SizeBucketSymbol) (bucket : SizeBucket) : Except String Unit :=
  throwIf (bucket ∉ symbol.ladder) (symbol.name ++ " size bucket must use the reviewed ladder.")

end App20.Intents
