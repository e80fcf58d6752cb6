import App20.Rfq.Records

/-!
# What a saved record has to say

The two validators that a record passes before it is saved: the targets of its attempts, and the
bindings of a v3 record to its bucket, its keys and its fills.

* `assertRfqLifecycleAttemptTargets`: every attempt against the terms, the quote and the fills.
* `assertRfqV3LifecycleBindings`: what a v3 record needs in its state, and a v2 record must not have.
-/

namespace App20.Rfq

open App20.Lib App20.Domain

variable (host : Host)

/-! ## The take -/

/-- The fills of a record, with their lock ids in canonical form. -/
def takeFills (fills : List RfqV3Fill) : Except String (List TakeFill) :=
  fills.mapM fun fill => do
    let lockId ← canonicalLocalRfqId fill.lockId
    let amountA ← checkedDecimal fill.amountA "fill amountA" true
    let amountB ← checkedDecimal fill.amountB "fill amountB" true
    return ⟨lockId, amountA, amountB⟩

def totalOf (amounts : List Text) : Int := (amounts.map decimalValue).sum

def takeAttemptTargetFromLifecycle (record : RfqLifecycleRecord) :
    Except String RfqTakeAttemptTarget :=
  match record.mode, record.requestDigest, record.terms, record.settlement, record.fills with
  | .v3, some requestDigest, some terms, some settlement, some fills => do
    throwIf (requestDigest = [] ∨ fills = [])
      "RFQ v3 exact request, terms, settlement, and fills are required for Take."
    let fills ← takeFills fills
    let totalA := totalOf (fills.map (·.amountA))
    let totalB := totalOf (fills.map (·.amountB))
    throwIf (decimal totalA ≠ terms.sellAmount ∨
        ∃ buyAmount ∈ terms.buyAmount, decimal totalB ≠ buyAmount)
      "RFQ v3 exact fills contradict the persisted total terms."
    return ⟨⟨record.chainId, record.account, record.rfqId, requestDigest⟩, settlement.dealId,
      ⟨terms.sellAddress, decimal totalA, terms.buyAddress, decimal totalB, fills⟩⟩
  | _, _, _, _, _ =>
    .error "RFQ v3 exact request, terms, settlement, and fills are required for Take."

/-! ## Targets -/

def targetCommonMatchesRecord (record : RfqLifecycleRecord) (target : AttemptTarget) :
    Except String Bool := do
  let targetChain ← canonicalRfqChainId host target.chainId
  let recordChain ← canonicalRfqChainId host record.chainId
  if targetChain ≠ recordChain then return false
  let targetAccount ← canonicalRfqAccount target.account
  let recordAccount ← canonicalRfqAccount record.account
  return decide (targetAccount = recordAccount ∧ sameIdentity host target.rfqId record.rfqId = true ∧
    some target.requestDigest = record.requestDigest)

def settlementTargetMatchesRecord (record : RfqLifecycleRecord) (target : AttemptTarget)
    (deal : SettlementTarget) : Except String Bool := do
  let common ← targetCommonMatchesRecord host record target
  match common, record.terms, record.selectedQuote, record.settlement with
  | true, some terms, some quote, some settlement =>
    return decide (sameIdentity host deal.dealId settlement.dealId = true ∧
      deal.solverId = quote.solverId ∧ deal.reservationId = quote.reservationId ∧
      some deal.reservationFence = quote.reservationFence ∧
      some deal.quoteDigest = quote.quoteDigest ∧
      sameIdentity host deal.sellToken terms.sellAddress = true ∧
      deal.sellAmount = terms.sellAmount ∧ sameIdentity host deal.buyToken terms.buyAddress = true ∧
      deal.buyAmount = quote.buyAmount ∧ deal.deadline = settlement.deadline ∧
      some quote.intentDigest = record.requestDigest)
  | _, _, _, _ => return false

/-- Whatever is thrown counts as no match. -/
def takeTargetMatchesRecord (record : RfqLifecycleRecord) (target : AttemptTarget) (dealId : Text)
    (stated : TakeExpected) : Bool :=
  match takeAttemptTargetFromLifecycle record, targetCommonMatchesRecord host record target with
  | .ok ⟨_, expectedDealId, expected⟩, .ok true =>
    decide (sameIdentity host dealId expectedDealId = true ∧
      sameIdentity host stated.tokenA expected.tokenA = true ∧ stated.totalA = expected.totalA ∧
      sameIdentity host stated.tokenB expected.tokenB = true ∧ stated.totalB = expected.totalB ∧
      stated.fills.length = expected.fills.length ∧ ∀ pair ∈ stated.fills.zip expected.fills,
        sameIdentity host pair.1.lockId pair.2.lockId = true ∧
          pair.1.amountA = pair.2.amountA ∧ pair.1.amountB = pair.2.amountB)
  | _, _ => false

/-- A hash without a target, which the migration of v1 leaves behind. -/
def hashOnly (record : RfqLifecycleRecord) (attempt : PhaseAttempt) : Bool :=
  decide (attempt.state = .submittedUnknown) && given attempt.transactionHash &&
    record.terms.isNone && record.settlement.isNone

def assertTargetOperation (record : RfqLifecycleRecord) (phase : Phase) (target : AttemptTarget) :
    Except String Unit :=
  match phase, target.operation with
  | .funding, .fundingTicket deal => do
    let matched ← settlementTargetMatchesRecord host record target deal
    throwIf (matched = false) "funding ticket target contradicts immutable terms."
  | .funding, _ => .error "funding ticket target contradicts immutable terms."
  | .fill, .makerFill deal ticketAddress => do
    let matched ← settlementTargetMatchesRecord host record target deal
    match matched, record.settlement.bind (·.ticketAddress) with
    | true, some ticket =>
      throwIf (ticket = [] ∨ sameIdentity host ticketAddress ticket = false)
        "maker-fill target contradicts immutable terms."
    | _, _ => .error "maker-fill target contradicts immutable terms."
  | .fill, _ => .error "maker-fill target contradicts immutable terms."
  | .take, .take dealId expected =>
    throwIf (takeTargetMatchesRecord host record target dealId expected = false)
      "Take target contradicts immutable v3 fills."
  | .take, _ => .error "Take target contradicts immutable v3 fills."
  | _, .requestReservations _ => .ok ()
  | _, .fundedSettlementExpiry dealId escrowAddress solverId reservationId reservationFence
      quoteDigest =>
    match record.settlement, record.selectedQuote with
    | some settlement, some quote =>
      throwIf (¬ (sameIdentity host dealId settlement.dealId = true ∧
          sameIdentity host escrowAddress settlement.escrowAddress = true ∧
          solverId = quote.solverId ∧ reservationId = quote.reservationId ∧
          some reservationFence = quote.reservationFence ∧ some quoteDigest = quote.quoteDigest))
        "funded reservation-release target contradicts immutable terms."
    | _, _ => .error "funded reservation-release target contradicts immutable terms."
  | _, _ => .error "reservation-release requires an exact release target."

def assertAttemptTarget (record : RfqLifecycleRecord) (phase : Phase) (attempt : PhaseAttempt) :
    Except String Unit :=
  if phase = .claim ∨ phase = .refund then
    throwIf (attempt.target.isSome = true) (phase.name ++ " must not carry an attempt target.")
  else do
    throwIf (record.mode = .v3 ∧ phase ≠ .take)
      ("RFQ v3 must not carry a legacy " ++ phase.name ++ " attempt.")
    throwIf (record.mode ≠ .v3 ∧ phase = .take) "Legacy RFQs must not carry a Take attempt."
    match attempt.target with
    | none =>
      throwIf (¬ (phase = .funding ∧ hashOnly record attempt = true))
        (phase.name ++ " requires its exact immutable attempt target.")
    | some target => do
      let common ← targetCommonMatchesRecord host record target
      throwIf (common = false) (phase.name ++ " attempt target changed lifecycle scope.")
      assertTargetOperation host record phase target

def assertRfqLifecycleAttemptTargets (record : RfqLifecycleRecord) : Except String Unit :=
  Phase.all.forM fun phase =>
    match record.attempts.get phase with
    | none => .ok ()
    | some attempt => assertAttemptTarget host record phase attempt

/-! ## Bindings -/

/-- `V3_KEY_TERMINAL_STATES` -/
def v3KeyTerminalStates : List RfqLifecycleState :=
  [.settled, .expired, .refused, .cancelled, .reorged]

def v3StateKeepsSigningKey (state : RfqLifecycleState) : Bool :=
  decide (state ∉ v3KeyTerminalStates)

def v3SelectedStates : List RfqLifecycleState := [.quoted, .reviewing, .submissionUnknown, .settled]

/-- `/^0x[0-9a-f]{64}$/` -/
def isRequestDigest (value : Option Text) : Bool :=
  match value with
  | some ('0' :: 'x' :: digits) =>
    decide (digits.length = 64) && digits.all fun c => isHexDigit c && !c.isUpper
  | _ => false

def v3KeysValid (record : RfqLifecycleRecord) : Bool :=
  let signingKeyRequired := v3StateKeepsSigningKey record.state && !record.restoredFromBackup
  record.bucket.isSome && given record.takerCommitment &&
    decide (record.takerCommitment ≠ some "0x0".toList) &&
    match record.takerSigningKey with
    | none => !signingKeyRequired
    | some key => decide (key ≠ "0x0".toList) &&
        decide ((host.takerPublicKeyFor key).isSome = true ∧
          host.takerPublicKeyFor key = record.takerCommitment) &&
        signingKeyRequired && decide (key ≠ [])

def assertV3Selected (record : RfqLifecycleRecord) : Except String Unit :=
  match record.terms, record.settlement, record.fills, record.bucket with
  | some terms, some settlement, some fills, some bucket => do
    throwIf (given terms.buyAmount = false ∨ settlement.version ≠ .localnetV3 ∨ fills = [] ∨
        4 < fills.length ∨ sameIdentity host settlement.dealId record.rfqId = false)
      "Selected RFQ v3 records require exact Take bindings."
    let target ← takeAttemptTargetFromLifecycle record
    let totalA := decimalValue target.expected.totalA
    let totalB := decimalValue target.expected.totalB
    -- Without a least amount there is nothing to compare the total with.
    match parseBigInt bucket.min, parseBigInt bucket.max,
        (terms.minBuyAmount.map parseBigInt).getD (some totalB) with
    | some min, some max, some minBuyAmount =>
      throwIf (totalA < min ∨ max < totalA ∨ totalB < minBuyAmount ∨
          terms.rfqExpiresAt ≠ settlement.deadline ∨
          ∃ fill ∈ fills, fill.lockExpiresAt ≠ settlement.deadline)
        "Selected RFQ v3 fills contradict their exact terms."
    | _, _, _ => .error "Cannot convert to a BigInt"
  | _, _, _, _ => .error "Selected RFQ v3 records require exact Take bindings."

def assertRfqV3LifecycleBindings (record : RfqLifecycleRecord) : Except String Unit :=
  match record.mode with
  | .v2 =>
    throwIf (record.bucket.isSome = true ∨ given record.takerCommitment = true ∨
        given record.takerSigningKey = true ∨ record.fills.isSome = true ∨
        given record.takeTransactionHash = true ∨
        record.transcriptAcknowledgements.isSome = true ∨ record.attempts.take.isSome = true ∨
        record.restoredFromBackup = true)
      "Legacy RFQs must not carry v3 execution bindings."
  | .v3 => do
    throwIf (v3KeysValid host record = false)
      "RFQ v3 execution authorization bindings are invalid."
    if record.state ∉ v3SelectedStates then
      throwIf (record.state ≠ .draft ∧ isRequestDigest record.requestDigest = false)
        "Requested RFQ v3 records require their request digest."
    else do
      throwIf (isRequestDigest record.requestDigest = false)
        "Selected RFQ v3 records require their request digest."
      assertV3Selected host record

end App20.Rfq
