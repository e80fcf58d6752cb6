import App20.Lib.JsonText
import App20.Reservation.Codec

/-!
# The economic policy of RFQs

`evaluateRfqEconomicPolicy` on any input: each part of the input is read and checked, and gives the
reasons to refuse. A proposal is allowed when no part gives one.

* `evaluate_allowed`: what is known of an input that is allowed.
-/

namespace App20.Intents

open App20.Lib App20.Domain
open App20.Reservation (isObject maxU256 maxSafeInteger)

/-! ## Limits -/

def policyId : Text := "app20/rfq-economics/reviewed-first-release-v1".toList
def maxMakerSpreadBps : Int := 50
def maxTotalDeviationBps : Int := 100
def maxQuoteTtlSeconds : Int := 90
def referenceRejectAgeSeconds : Int := 300
def referenceSuspendAgeSeconds : Int := 900
def singleMakerConcentrationBps : Int := 6000
def bpsScale : Int := 10000
def dailyWindowSeconds : Int := 24 * 60 * 60

def usdcBaseUnits : Int := 1000000
def perTradeCap : Int := 5000 * usdcBaseUnits
def perMakerDailyCap : Int := 25000 * usdcBaseUnits
def perMarketDailyCap : Int := 50000 * usdcBaseUnits

def reviewedMarketId : Text := "STRK_USDC".toList
def strkId : Text := "STRK".toList
def usdcId : Text := "USDC".toList

/-! ## Decisions -/

inductive RejectionCode where
  | actionUnsupported | publicNetworkDisabled | decisionTimeMalformed
  | recoveryRequiresPersistedReservation | marketStateUnavailable | marketStateMalformed
  | marketSuspended | referenceUnavailable | referenceMalformed | referenceStale
  | referenceSuspensionRequired | proposalUnavailable | proposalMalformed | marketBindingMismatch
  | tokenBindingMismatch | tokenDecimalsMismatch | referenceQuantityMismatch | makerBindingMismatch
  | partialFillRefused | app20FeeRefused | makerSpreadMismatch | makerSpreadExceeded
  | totalDeviationExceeded | usdcEquivalentMismatch | quoteTtlExceeded | perTradeCapExceeded
  | accountingUnavailable | accountingMalformed | accountingStale | perMakerDailyCapExceeded
  | perMarketDailyCapExceeded | singleMakerConcentrationExceeded
  deriving DecidableEq

structure Reason where
  code : RejectionCode
  message : String

structure PolicyDecision where
  allowed : Bool
  policyId : Text
  action : Json
  reasons : List Reason
  recoveryOnly : Bool

def decision (action : Json) (reasons : List Reason) (recoveryOnly : Bool) : PolicyDecision :=
  ⟨reasons.isEmpty, policyId, action, reasons, recoveryOnly⟩

def refuseIf (c : Prop) [Decidable c] (code : RejectionCode) (message : String) : List Reason :=
  if c then [⟨code, message⟩] else []

theorem refuseIf_eq_nil {c : Prop} [Decidable c] {code : RejectionCode} {message : String} :
    refuseIf c code message = [] ↔ ¬ c := by
  unfold refuseIf
  split <;> simp [*]

/-! ## Reading -/

/-- A safe integer from `least` on. -/
def safeFrom (least : Int) : Option Json → Option Int
  | some (.number n) => if least ≤ n ∧ n ≤ maxSafeInteger then some n else none
  | _ => none

def safeTimestamp : Option Json → Option Int := safeFrom 1
def safeBps : Option Json → Option Int := safeFrom 0

def safeDecimals (value : Option Json) : Option Int := (safeFrom 0 value).filter fun n => n ≤ 255

/-- `positiveU256` and `nonNegativeU256` -/
def u256From (least : Int) : Option Json → Option Int
  | some (.bigint n) => if least ≤ n ∧ n ≤ maxU256 then some n else none
  | _ => none

def positiveU256 : Option Json → Option Int := u256From 1
def nonNegativeU256 : Option Json → Option Int := u256From 0

def isAlphanumeric (c : Char) : Bool :=
  let n := c.toNat
  decide ((48 ≤ n ∧ n ≤ 57) ∨ (65 ≤ n ∧ n ≤ 90) ∨ (97 ≤ n ∧ n ≤ 122))

/-- `SAFE_ID`: a letter or digit, and at most 127 letters, digits and marks. -/
def isSafeId : Text → Bool
  | [] => false
  | c :: cs => isAlphanumeric c && decide (cs.length ≤ 127) &&
      cs.all fun d => isAlphanumeric d || "._:/-".toList.contains d

def safeId : Option Json → Option Text
  | some (.string s) => if isSafeId s then some s else none
  | _ => none

/-- `String` of a value. What is written for a fraction does not matter: it is no action. -/
def jsText : Json → Text
  | .null => "null".toList
  | .bool b => if b then "true".toList else "false".toList
  | .number n | .bigint n => decimal n
  | .fraction => "NaN".toList
  | .string s => s
  | .object _ => "[object Object]".toList
  | .array xs => joinTexts xs
where
  /-- The items of an array, between commas; `null` leaves nothing. -/
  joinTexts : List Json → Text
    | [] => []
    | [.null] => []
    | [x] => jsText x
    | .null :: xs => ',' :: joinTexts xs
    | x :: xs => jsText x ++ ',' :: joinTexts xs

/-! ## The parts of an input -/

structure Reference where
  marketId : Text
  observedAt : Int
  sellTokenId : Text
  sellTokenDecimals : Int
  buyTokenId : Text
  buyTokenDecimals : Int
  grossSellAmountBaseUnits : Int
  grossBuyAmountBaseUnits : Int

structure EconomicProposal where
  marketId : Text
  makerId : Text
  sellTokenId : Text
  sellTokenDecimals : Int
  buyTokenId : Text
  buyTokenDecimals : Int
  requestedSellAmountBaseUnits : Int
  offeredSellAmountBaseUnits : Int
  offeredBuyAmountBaseUnits : Int
  usdcEquivalentBaseUnits : Int
  makerSpreadBps : Int
  app20FeeBps : Int
  quoteTtlSeconds : Int

structure Accounting where
  windowId : Text
  marketId : Text
  makerId : Text
  startsAt : Int
  endsAt : Int
  observedAt : Int
  makerCommittedUsdcBaseUnits : Int
  marketCommittedUsdcBaseUnits : Int

def isReviewedTokenDirection (sellTokenId buyTokenId : Text) : Bool :=
  (sellTokenId = strkId ∧ buyTokenId = usdcId) ∨ (sellTokenId = usdcId ∧ buyTokenId = strkId)

def reviewedTokenDecimals (tokenId : Text) : Option Int :=
  if tokenId = strkId then some 18 else if tokenId = usdcId then some 6 else none

/-- A part that is missing or `null`, or its value. -/
def present : Option Json → Option Json
  | none | some .null => none
  | some value => some value

def isText (value : Option Json) (t : Text) : Bool :=
  match value with
  | some (.string s) => s = t
  | _ => false

def isBool (value : Option Json) (b : Bool) : Bool :=
  match value with
  | some (.bool c) => c = b
  | _ => false

/-- The market of the control state, and the reasons that it gives. -/
def assessMarket (input : Json) : Option Text × List Reason :=
  match present (input.get? "market") with
  | none => (none, [⟨.marketStateUnavailable, "Market control state is unavailable."⟩])
  | some market =>
    let malformed : Option Text × List Reason :=
      (none, [⟨.marketStateMalformed, "Market control state is malformed."⟩])
    match safeId (market.get? "marketId") with
    | none => malformed
    | some marketId =>
      let state := market.get? "state"
      if isObject market = false ∨ (isText state "active".toList = false ∧
          isText state "suspended".toList = false) then malformed
      else
        (some marketId,
          refuseIf (isText state "suspended".toList = true) .marketSuspended
            "Market is suspended; no new RFQ request or quote is accepted." ++
          refuseIf (marketId ≠ reviewedMarketId) .marketBindingMismatch
            "Market is outside the reviewed local first-release market.")

def readReference (value : Json) (decisionAt : Option Int) : Option (Reference × Int) := do
  guard (isObject value = true ∧ isBool (value.get? "available") true = true)
  let marketId ← safeId (value.get? "marketId")
  let observedAt ← safeTimestamp (value.get? "observedAt")
  let sellTokenId ← safeId (value.get? "sellTokenId")
  let sellTokenDecimals ← safeDecimals (value.get? "sellTokenDecimals")
  let buyTokenId ← safeId (value.get? "buyTokenId")
  let buyTokenDecimals ← safeDecimals (value.get? "buyTokenDecimals")
  let grossSell ← positiveU256 (value.get? "grossSellAmountBaseUnits")
  let grossBuy ← positiveU256 (value.get? "grossBuyAmountBaseUnits")
  let now ← decisionAt
  guard (observedAt ≤ now)
  return (⟨marketId, observedAt, sellTokenId, sellTokenDecimals, buyTokenId, buyTokenDecimals,
    grossSell, grossBuy⟩, now)

def referenceReasons (reference : Reference) (now : Int) (marketId : Option Text) : List Reason :=
  let referenceAge := now - reference.observedAt
  refuseIf (reference.marketId ≠ reviewedMarketId ∨ marketId.any (reference.marketId ≠ ·) = true)
    .marketBindingMismatch "Reference and market control must bind the reviewed market." ++
  refuseIf (isReviewedTokenDirection reference.sellTokenId reference.buyTokenId = false)
    .tokenBindingMismatch "Reference token identities are outside the reviewed token pair." ++
  refuseIf (some reference.sellTokenDecimals ≠ reviewedTokenDecimals reference.sellTokenId ∨
      some reference.buyTokenDecimals ≠ reviewedTokenDecimals reference.buyTokenId)
    .tokenDecimalsMismatch "Reference token decimals disagree with the reviewed token units." ++
  (if referenceSuspendAgeSeconds < referenceAge then
    [⟨.referenceSuspensionRequired,
      "Reference price is older than 900 seconds; the market must remain suspended."⟩]
  else
    refuseIf (referenceRejectAgeSeconds < referenceAge) .referenceStale
      ("Reference price is older than 300 seconds; no new RFQ request or quote is accepted."))

def assessReference (input : Json) (decisionAt : Option Int) (marketId : Option Text) :
    Option Reference × List Reason :=
  let unavailable : Option Reference × List Reason := (none, [⟨.referenceUnavailable,
    "Reference price is unavailable; no new RFQ request or quote is accepted."⟩])
  match present (input.get? "reference") with
  | none => unavailable
  | some value =>
    if isObject value = true ∧ isBool (value.get? "available") false = true then unavailable
    else
      match readReference value decisionAt with
      | none => (none, [⟨.referenceMalformed, "Reference evidence is malformed."⟩])
      | some (reference, now) => (some reference, referenceReasons reference now marketId)

def readProposal (value : Json) : Option EconomicProposal := do
  guard (isObject value = true)
  let marketId ← safeId (value.get? "marketId")
  let makerId ← safeId (value.get? "makerId")
  let sellTokenId ← safeId (value.get? "sellTokenId")
  let sellTokenDecimals ← safeDecimals (value.get? "sellTokenDecimals")
  let buyTokenId ← safeId (value.get? "buyTokenId")
  let buyTokenDecimals ← safeDecimals (value.get? "buyTokenDecimals")
  let requestedSell ← positiveU256 (value.get? "requestedSellAmountBaseUnits")
  let offeredSell ← positiveU256 (value.get? "offeredSellAmountBaseUnits")
  let offeredBuy ← positiveU256 (value.get? "offeredBuyAmountBaseUnits")
  let usdcEquivalent ← positiveU256 (value.get? "usdcEquivalentBaseUnits")
  let makerSpreadBps ← safeBps (value.get? "makerSpreadBps")
  let app20FeeBps ← safeBps (value.get? "app20FeeBps")
  let quoteTtlSeconds ← safeTimestamp (value.get? "quoteTtlSeconds")
  return ⟨marketId, makerId, sellTokenId, sellTokenDecimals, buyTokenId, buyTokenDecimals,
    requestedSell, offeredSell, offeredBuy, usdcEquivalent, makerSpreadBps, app20FeeBps,
    quoteTtlSeconds⟩

def proposalReasons (proposal : EconomicProposal) (marketId : Option Text)
    (reference : Option Reference) : List Reason :=
  refuseIf (proposal.marketId ≠ reviewedMarketId ∨ marketId.any (proposal.marketId ≠ ·) = true ∨
      reference.any (fun r => proposal.marketId ≠ r.marketId) = true) .marketBindingMismatch
    "Proposal, market control, and reference must bind the reviewed market." ++
  refuseIf (isReviewedTokenDirection proposal.sellTokenId proposal.buyTokenId = false ∨
      reference.any (fun r => proposal.sellTokenId ≠ r.sellTokenId ∨
        proposal.buyTokenId ≠ r.buyTokenId) = true)
    .tokenBindingMismatch "Proposal and reference must bind the reviewed token identities." ++
  refuseIf (some proposal.sellTokenDecimals ≠ reviewedTokenDecimals proposal.sellTokenId ∨
      some proposal.buyTokenDecimals ≠ reviewedTokenDecimals proposal.buyTokenId ∨
      reference.any (fun r => proposal.sellTokenDecimals ≠ r.sellTokenDecimals ∨
        proposal.buyTokenDecimals ≠ r.buyTokenDecimals) = true)
    .tokenDecimalsMismatch "Proposal and reference must use the reviewed token decimals." ++
  refuseIf (proposal.offeredSellAmountBaseUnits ≠ proposal.requestedSellAmountBaseUnits)
    .partialFillRefused "The first-release RFQ policy permits full fills only." ++
  refuseIf (proposal.app20FeeBps ≠ 0) .app20FeeRefused
    "The first-release APP20 fee is fixed at 0 bps." ++
  refuseIf (maxQuoteTtlSeconds < proposal.quoteTtlSeconds) .quoteTtlExceeded
    "Quote TTL exceeds the reviewed 90-second maximum."

/-- The USDC leg of either direction, with the scale of its token. -/
def usdcLeg (reference : Reference) : Int × Int :=
  if reference.buyTokenId = usdcId then
    (reference.grossBuyAmountBaseUnits * usdcBaseUnits, 10 ^ reference.buyTokenDecimals.toNat)
  else
    (reference.grossSellAmountBaseUnits * usdcBaseUnits, 10 ^ reference.sellTokenDecimals.toNat)

/-- `derivedUsdcEquivalentBaseUnits` -/
def derivedUsdc (reference : Reference) : Option Int :=
  let (usdcNumerator, usdcTokenScale) := usdcLeg reference
  if usdcNumerator % usdcTokenScale = 0 then some (usdcNumerator / usdcTokenScale) else none

def priceReasons (proposal : EconomicProposal) (reference : Reference) : List Reason :=
  let referenceBuy := reference.grossBuyAmountBaseUnits
  let spreadNumerator := if proposal.offeredBuyAmountBaseUnits < referenceBuy then
    referenceBuy - proposal.offeredBuyAmountBaseUnits else 0
  let computedSpreadBps := spreadNumerator * bpsScale / referenceBuy
  let deviationNumerator := if referenceBuy ≤ proposal.offeredBuyAmountBaseUnits then
    proposal.offeredBuyAmountBaseUnits - referenceBuy
    else referenceBuy - proposal.offeredBuyAmountBaseUnits
  let (usdcNumerator, usdcTokenScale) := usdcLeg reference
  refuseIf (reference.grossSellAmountBaseUnits ≠ proposal.requestedSellAmountBaseUnits ∨
      reference.grossSellAmountBaseUnits ≠ proposal.offeredSellAmountBaseUnits)
    .referenceQuantityMismatch
    "Reference and proposal must price the identical sell base quantity." ++
  refuseIf (proposal.makerSpreadBps ≠ computedSpreadBps) .makerSpreadMismatch
    "Self-reported maker spread disagrees with the exact reference/proposal amounts." ++
  refuseIf (referenceBuy * maxMakerSpreadBps < spreadNumerator * bpsScale) .makerSpreadExceeded
    "Computed maker spread exceeds the reviewed 50 bps maximum." ++
  refuseIf (referenceBuy * maxTotalDeviationBps < deviationNumerator * bpsScale)
    .totalDeviationExceeded
    "Quote exceeds the reviewed 100 bps total reference-deviation band." ++
  (if usdcNumerator % usdcTokenScale = 0 then
    refuseIf (proposal.usdcEquivalentBaseUnits * usdcTokenScale ≠ usdcNumerator)
      .usdcEquivalentMismatch
      "Claimed USDC equivalent disagrees with the exact reviewed reference conversion." ++
    refuseIf (perTradeCap * usdcTokenScale < usdcNumerator) .perTradeCapExceeded
      "Trade exceeds the reviewed 5,000 USDC-equivalent cap."
  else
    [⟨.referenceMalformed, "Reference quantity cannot be represented in exact USDC base units."⟩])

def assessProposal (input : Json) (marketId : Option Text) (reference : Option Reference) :
    Option EconomicProposal × List Reason :=
  match present (input.get? "proposal") with
  | none => (none, [⟨.proposalUnavailable, "RFQ economic proposal is unavailable."⟩])
  | some value =>
    match readProposal value with
    | none => (none, [⟨.proposalMalformed, "RFQ economic proposal is malformed."⟩])
    | some proposal =>
      (some proposal, proposalReasons proposal marketId reference ++ (match reference with
        | none => []
        | some reference => priceReasons proposal reference))

def readAccounting (value : Json) (decisionAt : Option Int) : Option (Accounting × Int) := do
  guard (isObject value = true)
  let windowId ← safeId (value.get? "windowId")
  let marketId ← safeId (value.get? "marketId")
  let makerId ← safeId (value.get? "makerId")
  let startsAt ← safeTimestamp (value.get? "startsAt")
  let endsAt ← safeTimestamp (value.get? "endsAt")
  let observedAt ← safeTimestamp (value.get? "observedAt")
  let makerCommitted ← nonNegativeU256 (value.get? "makerCommittedUsdcBaseUnits")
  let marketCommitted ← nonNegativeU256 (value.get? "marketCommittedUsdcBaseUnits")
  let now ← decisionAt
  guard (endsAt - startsAt = dailyWindowSeconds ∧ startsAt ≤ now ∧ now < endsAt ∧
    startsAt ≤ observedAt ∧ observedAt ≤ now ∧ makerCommitted ≤ marketCommitted)
  return (⟨windowId, marketId, makerId, startsAt, endsAt, observedAt, makerCommitted,
    marketCommitted⟩, now)

/-- The counters after a trade of some value. -/
def capReasons (accounting : Accounting) (value : Int) : List Reason :=
  let makerAfter := accounting.makerCommittedUsdcBaseUnits + value
  let marketAfter := accounting.marketCommittedUsdcBaseUnits + value
  refuseIf (perMakerDailyCap < makerAfter) .perMakerDailyCapExceeded
    "Proposal exceeds the reviewed 25,000 USDC-equivalent maker daily cap." ++
  refuseIf (perMarketDailyCap < marketAfter) .perMarketDailyCapExceeded
    "Proposal exceeds the reviewed 50,000 USDC-equivalent market daily cap." ++
  refuseIf (marketAfter * singleMakerConcentrationBps < makerAfter * bpsScale)
    .singleMakerConcentrationExceeded
    "Maker usage exceeds 60% of actual market usage in the accounting window."

def assessAccounting (input : Json) (decisionAt : Option Int) (marketId : Option Text)
    (proposal : Option EconomicProposal) (derived : Option Int) : List Reason :=
  match present (input.get? "accounting") with
  | none => [⟨.accountingUnavailable,
    "Daily cap accounting is unavailable; no new RFQ request or quote is accepted."⟩]
  | some value =>
    match readAccounting value decisionAt with
    | none => [⟨.accountingMalformed, "Daily cap accounting window is malformed."⟩]
    | some (accounting, now) =>
      refuseIf (accounting.observedAt ≠ now) .accountingStale
        "Daily cap accounting must be current at the economic decision time." ++
      refuseIf (marketId.any (accounting.marketId ≠ ·) = true) .marketBindingMismatch
        "Accounting and market control must bind the same market." ++
      (match proposal with
      | none => []
      | some proposal =>
        refuseIf (accounting.marketId ≠ proposal.marketId) .marketBindingMismatch
          "Proposal and accounting must bind the same market." ++
        refuseIf (accounting.makerId ≠ proposal.makerId) .makerBindingMismatch
          "Proposal and accounting must bind the same maker.") ++
      (match proposal, derived with
      | some _, some value => capReasons accounting value
      | _, _ => [])

/-! ## The policy -/

/-- What is read of a new request or quote, and the reasons to refuse it. -/
structure Assessment where
  proposal : Option EconomicProposal
  derived : Option Int
  reasons : List Reason

def assess (input : Json) : Assessment :=
  let decisionAt := safeTimestamp (input.get? "decisionAt")
  let (marketId, marketReasons) := assessMarket input
  let (reference, referenceReasons) := assessReference input decisionAt marketId
  let (proposal, proposalReasons) := assessProposal input marketId reference
  let derived := proposal.bind fun _ => reference.bind derivedUsdc
  { proposal, derived
    reasons :=
      refuseIf (isText (input.get? "network") "localnet".toList = false) .publicNetworkDisabled
        "Public-network RFQ remains disabled for this release." ++
      refuseIf (decisionAt = none) .decisionTimeMalformed
        "Economic decision time must be a positive safe-integer timestamp." ++
      marketReasons ++ referenceReasons ++ proposalReasons ++
      assessAccounting input decisionAt marketId proposal derived }

def recognizedAction (value : Option Json) : Bool :=
  value.any fun v => ["request", "quote", "claim", "timeout", "refund"].any (·.toList = jsText v)

def isRecoveryAction (value : Option Json) : Bool :=
  ["claim", "timeout", "refund"].any fun action => isText value action.toList

def recoveryReasons (input : Json) : List Reason :=
  refuseIf (isText (input.get? "network") "localnet".toList = false) .publicNetworkDisabled
    "Public-network RFQ remains disabled for this release." ++
  refuseIf (safeTimestamp (input.get? "decisionAt") = none) .decisionTimeMalformed
    "Recovery decision time must be a positive safe-integer timestamp." ++
  [⟨.recoveryRequiresPersistedReservation,
    "Economic policy cannot authorize recovery without an existing persisted reservation and " ++
      "state binding."⟩]

def evaluateRfqEconomicPolicy (input : Json) : PolicyDecision :=
  let action := input.get? "action"
  if isObject input = false ∨ recognizedAction action = false then
    decision (.string "unknown".toList)
      [⟨.actionUnsupported, "RFQ economic action is unsupported or missing."⟩] false
  else if isRecoveryAction action = true then
    decision (action.getD .null) (recoveryReasons input) true
  else
    decision (action.getD .null) (assess input).reasons false

/-- The maker and the derived value of a proposal. -/
def tradeOf (input : Json) : Option (Text × Int) :=
  match (assess input).proposal, (assess input).derived with
  | some proposal, some value => some (proposal.makerId, value)
  | _, _ => none

/-! ## What is allowed -/

theorem usdcLeg_scale_pos (reference : Reference) : 0 < (usdcLeg reference).2 := by
  unfold usdcLeg
  split
  · exact Int.pow_pos (by omega)
  · exact Int.pow_pos (by omega)

variable {reference : Reference} {decisionAt : Option Int} {input : Json} {marketId : Option Text}
  {value : Int}

theorem priceReasons_nil {proposal : EconomicProposal} (h : priceReasons proposal reference = []) :
    ∃ value, derivedUsdc reference = some value ∧ value ≤ perTradeCap := by
  have hscale := usdcLeg_scale_pos reference
  unfold priceReasons at h
  unfold derivedUsdc
  dsimp only at h ⊢
  obtain ⟨-, h⟩ := List.append_eq_nil_iff.mp h
  split at h
  · rename_i hexact
    obtain ⟨-, h⟩ := List.append_eq_nil_iff.mp h
    have hcap := refuseIf_eq_nil.mp h
    refine ⟨_, if_pos hexact, ?_⟩
    exact Int.ediv_le_of_le_mul hscale (Int.not_lt.mp hcap)
  · cases h

theorem u256From_le {least n : Int} {value : Option Json} (h : u256From least value = some n) :
    least ≤ n := by
  unfold u256From at h
  split at h
  · split at h
    · rename_i hbounds
      cases h
      exact hbounds.1
    · cases h
  · cases h

theorem readReference_pos {value : Json} {now : Int}
    (h : readReference value decisionAt = some (reference, now)) :
    0 < reference.grossSellAmountBaseUnits ∧ 0 < reference.grossBuyAmountBaseUnits := by
  simp only [readReference, Option.bind_eq_bind, Option.bind_eq_some_iff] at h
  obtain ⟨_, -, _, -, _, -, _, -, _, -, _, -, _, -, grossSell, hsell, grossBuy, hbuy, _, -, _, -,
    hvalue⟩ := h
  cases hvalue
  exact ⟨u256From_le hsell, u256From_le hbuy⟩

theorem assessReference_pos (h : (assessReference input decisionAt marketId).1 = some reference) :
    0 < reference.grossSellAmountBaseUnits ∧ 0 < reference.grossBuyAmountBaseUnits := by
  revert h
  unfold assessReference
  dsimp only
  split
  · exact fun h => by cases h
  · split
    · exact fun h => by cases h
    · split
      · exact fun h => by cases h
      · rename_i hread
        intro h
        cases h
        exact readReference_pos hread

theorem derivedUsdc_pos (hsell : 0 < reference.grossSellAmountBaseUnits)
    (hbuy : 0 < reference.grossBuyAmountBaseUnits) (h : derivedUsdc reference = some value) :
    0 < value := by
  have hscale := usdcLeg_scale_pos reference
  have hnumerator : 0 < (usdcLeg reference).1 := by
    unfold usdcLeg
    split
    · exact Int.mul_pos hbuy (by decide)
    · exact Int.mul_pos hsell (by decide)
  unfold derivedUsdc at h
  dsimp only at h
  split at h
  · rename_i hexact
    have hvalue := Option.some.inj h
    have hmul := Int.ediv_mul_cancel (Int.dvd_of_emod_eq_zero hexact)
    rw [hvalue] at hmul
    exact Int.pos_of_mul_pos_left (hmul.symm ▸ hnumerator) hscale
  · cases h

/-- What is known of an input that is allowed: its trade, the accounting window that it was checked
against, and the limits. -/
structure Allowed (input : Json) (accounting : Accounting) (makerId : Text) (value : Int) :
    Prop where
  trade : tradeOf input = some (makerId, value)
  window : ∃ json now decisionAt, input.get? "accounting" = some json ∧
    readAccounting json decisionAt = some (accounting, now)
  maker : accounting.makerId = makerId
  positive : 0 < value
  perTrade : value ≤ perTradeCap
  perMaker : accounting.makerCommittedUsdcBaseUnits + value ≤ perMakerDailyCap
  perMarket : accounting.marketCommittedUsdcBaseUnits + value ≤ perMarketDailyCap
  concentration : (accounting.makerCommittedUsdcBaseUnits + value) * bpsScale ≤
    (accounting.marketCommittedUsdcBaseUnits + value) * singleMakerConcentrationBps

theorem capReasons_nil {accounting : Accounting} (h : capReasons accounting value = []) :
    accounting.makerCommittedUsdcBaseUnits + value ≤ perMakerDailyCap ∧
      accounting.marketCommittedUsdcBaseUnits + value ≤ perMarketDailyCap ∧
      (accounting.makerCommittedUsdcBaseUnits + value) * bpsScale ≤
        (accounting.marketCommittedUsdcBaseUnits + value) * singleMakerConcentrationBps := by
  unfold capReasons at h
  simp only [List.append_eq_nil_iff, refuseIf_eq_nil, Int.not_lt] at h
  exact ⟨h.1.1, h.1.2, h.2⟩

theorem assessReference_nil (h : (assessReference input decisionAt marketId).2 = []) :
    ∃ reference, (assessReference input decisionAt marketId).1 = some reference := by
  revert h
  unfold assessReference
  dsimp only
  split
  · exact fun h => by cases h
  · split
    · exact fun h => by cases h
    · split
      · exact fun h => by cases h
      · exact fun _ => ⟨_, rfl⟩

theorem assessProposal_nil (h : (assessProposal input marketId (some reference)).2 = []) :
    ∃ proposal, (assessProposal input marketId (some reference)).1 = some proposal ∧
      priceReasons proposal reference = [] := by
  revert h
  unfold assessProposal
  split
  · exact fun h => by cases h
  · split
    · exact fun h => by cases h
    · exact fun h => ⟨_, rfl, (List.append_eq_nil_iff.mp h).2⟩

theorem present_eq_some {value : Option Json} {v : Json} (h : present value = some v) :
    value = some v := by
  unfold present at h
  split at h
  · cases h
  · cases h
  · exact h

theorem assessAccounting_nil {proposal : EconomicProposal}
    (h : assessAccounting input decisionAt marketId (some proposal) (some value) = []) :
    ∃ json accounting now, input.get? "accounting" = some json ∧
      readAccounting json decisionAt = some (accounting, now) ∧
      accounting.makerId = proposal.makerId ∧ capReasons accounting value = [] := by
  unfold assessAccounting at h
  split at h
  · cases h
  · rename_i json hjson
    split at h
    · cases h
    · rename_i accounting now hread
      dsimp only at h
      simp only [List.append_eq_nil_iff, refuseIf_eq_nil, not_not] at h
      exact ⟨json, accounting, now, present_eq_some hjson, hread, h.1.2.2, h.2⟩

theorem allowed_assess (h : (evaluateRfqEconomicPolicy input).allowed = true) :
    (assess input).reasons = [] := by
  unfold evaluateRfqEconomicPolicy at h
  dsimp only at h
  split at h
  · cases h
  · split at h
    · have hreasons : recoveryReasons input = [] := List.isEmpty_iff.mp h
      cases (List.append_eq_nil_iff.mp hreasons).2
    · exact List.isEmpty_iff.mp h

theorem evaluate_allowed (h : (evaluateRfqEconomicPolicy input).allowed = true) :
    ∃ accounting makerId value, Allowed input accounting makerId value := by
  have hreasons := allowed_assess h
  unfold assess at hreasons
  dsimp only at hreasons
  simp only [List.append_eq_nil_iff] at hreasons
  obtain ⟨⟨⟨-, hreference⟩, hproposal⟩, haccounting⟩ := hreasons
  obtain ⟨reference, hreference⟩ := assessReference_nil hreference
  obtain ⟨hsell, hbuy⟩ := assessReference_pos hreference
  rw [hreference] at hproposal haccounting
  obtain ⟨proposal, hproposal, hprice⟩ := assessProposal_nil hproposal
  obtain ⟨value, hvalue, hcap⟩ := priceReasons_nil hprice
  rw [hproposal, Option.bind_some, Option.bind_some, hvalue] at haccounting
  obtain ⟨json, accounting, now, hjson, hread, hmaker, hcaps⟩ := assessAccounting_nil haccounting
  obtain ⟨hperMaker, hperMarket, hshare⟩ := capReasons_nil hcaps
  refine ⟨accounting, proposal.makerId, value, ?_, ⟨json, now, _, hjson, hread⟩, hmaker,
    derivedUsdc_pos hsell hbuy hvalue, hcap, hperMaker, hperMarket, hshare⟩
  unfold tradeOf assess
  dsimp only
  rw [hreference, hproposal, Option.bind_some, Option.bind_some, hvalue]

end App20.Intents
