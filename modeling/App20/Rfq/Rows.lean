import App20.Rfq.Attempts

/-!
# Rows

A stored row, or a row of a backup, is read field by field; whatever is thrown on the way counts as
a malformed row. A state, a stage or a status has to be written as a text here: the code takes a list
of one such text for it too.

* `parseRow`: the record that a row says.
-/

namespace App20.Rfq

open App20.Lib App20.Domain

variable (host : Host)

/-! ## Reading -/

def optionalField {α : Type} (value : Option Json) (read : Json → Option α) : Option (Option α) :=
  match value with
  | none => some none
  | some v => (read v).map some

/-- An object, which is no list. -/
def asRow (value : Json) : Option Json :=
  match value with
  | .object fields => some (.object fields)
  | _ => none

def readText (maximum : Nat) (value : Json) : Option Text :=
  (textOf (some value) "" maximum).toOption

def readTimestamp (value : Json) : Option Int := (timestampOf (some value) "").toOption

def readDecimal (positive : Bool) (value : Json) : Option Text :=
  (decimalOf (some value) "" positive).toOption

def readNonNegative (value : Json) : Option Int := (nonNegativeIntegerOf (some value) "").toOption

def readLocalId (value : Json) : Option Text := do
  let s ← readText 512 value
  (canonicalLocalRfqId s).toOption

/-- A local RFQ id in canonical form, another id as it is. -/
def readId (isLocal : Bool) (value : Json) : Option Text :=
  if isLocal = true then readLocalId value else readText 512 value

def isTrue (value : Option Json) : Bool :=
  match value with
  | some (.bool b) => b
  | _ => false

def readBool (value : Json) : Option Bool :=
  match value with
  | .bool b => some b
  | _ => none

def readName {α : Type} (name : α → String) (all : List α) (value : Json) : Option α :=
  match value with
  | .string s => all.find? fun a => decide ((name a).toList = s)
  | _ => none

def isName (name : String) (value : Option Json) : Bool :=
  match value with
  | some (.string s) => decide (s = name.toList)
  | _ => false

/-! ## Parts of a row -/

def maxU128 : Int := 2 ^ 128 - 1

def parseBucket (value : Json) : Option Bucket := do
  let row ← asRow value
  let min ← readDecimal true (← row.get? "min")
  let max ← readDecimal true (← row.get? "max")
  guard (decimalValue min < decimalValue max ∧ decimalValue max ≤ maxU128)
  return ⟨min, max⟩

def parseV3Fill (value : Json) : Option RfqV3Fill := do
  let row ← asRow value
  let lockId ← readLocalId (← row.get? "lockId")
  let amountA ← readDecimal true (← row.get? "amountA")
  let amountB ← readDecimal true (← row.get? "amountB")
  guard (lockId ≠ "0x0".toList ∧ decimalValue amountA ≤ maxU128 ∧ decimalValue amountB ≤ maxU128)
  let makerId ← readText 512 (← row.get? "makerId")
  let lockExpiresAt ← readTimestamp (← row.get? "lockExpiresAt")
  return ⟨makerId, lockId, amountA, amountB, lockExpiresAt⟩

def parseV3Fills (value : Json) : Option (List RfqV3Fill) :=
  match value with
  | .array items => do
    guard (1 ≤ items.length ∧ items.length ≤ 4)
    let fills ← items.mapM parseV3Fill
    guard ((fills.map (·.makerId)).Nodup ∧ (fills.map (·.lockId)).Nodup)
    return fills
  | _ => none

def parseTranscriptAcknowledgement (value : Json) : Option RfqTranscriptAcknowledgement := do
  let row ← asRow value
  let accepted ← readBool (← row.get? "accepted")
  let consistent ← readBool (← row.get? "consistent")
  let makerId ← readText 512 (← row.get? "makerId")
  let reason ← optionalField (row.get? "reason") (readText 512)
  return ⟨makerId, accepted, consistent, reason⟩

def parseTranscriptAcknowledgements (value : Json) : Option (List RfqTranscriptAcknowledgement) :=
  match value with
  | .array items => do
    let acknowledgements ← items.mapM parseTranscriptAcknowledgement
    guard (acknowledgements.map (·.makerId)).Nodup
    return acknowledgements
  | _ => none

def parseTerms (value : Json) : Option RfqExactTerms := do
  let row ← asRow value
  let sellDecimals ← readNonNegative (← row.get? "sellDecimals")
  let buyDecimals ← readNonNegative (← row.get? "buyDecimals")
  guard (sellDecimals ≤ 255 ∧ buyDecimals ≤ 255)
  let pairId ← readText 512 (← row.get? "pairId")
  let sellSymbol ← readText 32 (← row.get? "sellSymbol")
  let sellAddress ← readText 512 (← row.get? "sellAddress")
  let sellAmount ← readDecimal true (← row.get? "sellAmount")
  let buySymbol ← readText 32 (← row.get? "buySymbol")
  let buyAddress ← readText 512 (← row.get? "buyAddress")
  let minBuyAmount ← optionalField (row.get? "minBuyAmount") (readDecimal true)
  let buyAmount ← optionalField (row.get? "buyAmount") (readDecimal true)
  let rfqExpiresAt ← readTimestamp (← row.get? "rfqExpiresAt")
  return ⟨pairId, sellSymbol, sellAddress, sellDecimals, sellAmount, buySymbol, buyAddress,
    buyDecimals, minBuyAmount, buyAmount, rfqExpiresAt⟩

def QuoteVersion.name : QuoteVersion → String
  | .v1 => "Quote V1"
  | .v2 => "Quote V2"

def parseSelectedQuote (value : Json) : Option RfqSelectedQuote := do
  let row ← asRow value
  let version ← readName QuoteVersion.name [.v1, .v2] (← row.get? "version")
  let spreadBps ← readNonNegative (← row.get? "spreadBps")
  let solverId ← readText 512 (← row.get? "solverId")
  let solverKey ← readText 512 (← row.get? "solverKey")
  let nonce ← readText 512 (← row.get? "nonce")
  let reservationId ← readText 512 (← row.get? "reservationId")
  let pricingProvenance ← readText 512 (← row.get? "pricingProvenance")
  let quotedAt ← readTimestamp (← row.get? "quotedAt")
  let quoteExpiresAt ← readTimestamp (← row.get? "quoteExpiresAt")
  let reservationExpiresAt ← readTimestamp (← row.get? "reservationExpiresAt")
  let buyAmount ← readDecimal true (← row.get? "buyAmount")
  let intentDigest ← readText 512 (← row.get? "intentDigest")
  let signature ← readText 512 (← row.get? "signature")
  let quoteDigest ← optionalField (row.get? "quoteDigest") (readText 512)
  let reservationFence ← optionalField (row.get? "reservationFence") (readDecimal true)
  return ⟨version, solverId, solverKey, nonce, reservationId, spreadBps, pricingProvenance,
    quotedAt, quoteExpiresAt, reservationExpiresAt, buyAmount, intentDigest, signature,
    quoteDigest, reservationFence⟩

def SettlementVersion.name : SettlementVersion → String
  | .localnetV2 => "Localnet V2"
  | .localnetV3 => "Localnet V3"

def parseSettlement (isLocal : Bool) (value : Json) : Option RfqSettlementIdentity := do
  let row ← asRow value
  let version ← readName SettlementVersion.name [.localnetV2, .localnetV3] (← row.get? "version")
  let escrowAddress ← readText 512 (← row.get? "escrowAddress")
  let dealId ← readId isLocal (← row.get? "dealId")
  let ticketAddress ← optionalField (row.get? "ticketAddress") (readId isLocal)
  let commitmentDigest ← optionalField (row.get? "commitmentDigest") (readText 512)
  let deadline ← readTimestamp (← row.get? "deadline")
  return ⟨version, escrowAddress, dealId, ticketAddress, commitmentDigest, deadline⟩

def parseSettlementTarget (chainId : Text) (row : Json) : Option SettlementTarget := do
  let dealId ← readText 512 (← row.get? "dealId")
  let dealId ← (canonicalExecutableId host dealId chainId).toOption
  let solverId ← readText 512 (← row.get? "solverId")
  let reservationId ← readText 512 (← row.get? "reservationId")
  let reservationFence ← readDecimal true (← row.get? "reservationFence")
  let quoteDigest ← readText 512 (← row.get? "quoteDigest")
  let sellToken ← readText 512 (← row.get? "sellToken")
  let sellAmount ← readDecimal true (← row.get? "sellAmount")
  let buyToken ← readText 512 (← row.get? "buyToken")
  let buyAmount ← readDecimal true (← row.get? "buyAmount")
  let deadline ← readTimestamp (← row.get? "deadline")
  return ⟨dealId, solverId, reservationId, reservationFence, quoteDigest, sellToken, sellAmount,
    buyToken, buyAmount, deadline⟩

def parseTakeFill (value : Json) : Option TakeFill := do
  let row ← asRow value
  let lockId ← readLocalId (← row.get? "lockId")
  let amountA ← readDecimal true (← row.get? "amountA")
  let amountB ← readDecimal true (← row.get? "amountB")
  return ⟨lockId, amountA, amountB⟩

def parseTakeExpected (value : Json) : Option TakeExpected := do
  let row ← asRow value
  match row.get? "fills" with
  | some (.array items) =>
    guard (1 ≤ items.length ∧ items.length ≤ 4)
    let fills ← items.mapM parseTakeFill
    guard (fills.map (·.lockId)).Nodup
    let tokenA ← readText 512 (← row.get? "tokenA")
    let totalA ← readDecimal true (← row.get? "totalA")
    let tokenB ← readText 512 (← row.get? "tokenB")
    let totalB ← readDecimal true (← row.get? "totalB")
    return ⟨tokenA, totalA, tokenB, totalB, fills⟩
  | _ => none

def parseTargetOperation (chainId : Text) (row : Json) : Option TargetOperation :=
  let operation := row.get? "operation"
  if isName "request-reservations" operation = true then do
    let releaseLeaseId ← readText 512 (← row.get? "releaseLeaseId")
    return .requestReservations releaseLeaseId
  else if isName "funding-ticket" operation = true then do
    let settlement ← parseSettlementTarget host chainId row
    return .fundingTicket settlement
  else if isName "take" operation = true then do
    let expected ← parseTakeExpected (← row.get? "expected")
    let dealId ← readText 512 (← row.get? "dealId")
    let dealId ← (canonicalExecutableId host dealId chainId).toOption
    return .take dealId expected
  else if isName "maker-fill" operation = true then do
    let settlement ← parseSettlementTarget host chainId row
    let ticketAddress ← readText 512 (← row.get? "ticketAddress")
    return .makerFill settlement ticketAddress
  else if isName "funded-settlement-expiry" operation = true then do
    let dealId ← readText 512 (← row.get? "dealId")
    let dealId ← (canonicalExecutableId host dealId chainId).toOption
    let escrowAddress ← readText 512 (← row.get? "escrowAddress")
    let solverId ← readText 512 (← row.get? "solverId")
    let reservationId ← readText 512 (← row.get? "reservationId")
    let reservationFence ← readDecimal true (← row.get? "reservationFence")
    let quoteDigest ← readText 512 (← row.get? "quoteDigest")
    return .fundedSettlementExpiry dealId escrowAddress solverId reservationId reservationFence
      quoteDigest
  else none

def parseAttemptTarget (value : Json) : Option AttemptTarget := do
  let row ← asRow value
  let chainId ← readText 512 (← row.get? "chainId")
  let chainId ← (canonicalRfqChainId host chainId).toOption
  let account ← readText 512 (← row.get? "account")
  let account ← (canonicalRfqAccount account).toOption
  let rfqId ← readText 512 (← row.get? "rfqId")
  let rfqId ← (canonicalExecutableId host rfqId chainId).toOption
  let requestDigest ← readText 512 (← row.get? "requestDigest")
  let operation ← parseTargetOperation host chainId row
  return ⟨⟨chainId, account, rfqId, requestDigest⟩, operation⟩

def AttemptState.name : AttemptState → String
  | .preparing => "preparing"
  | .walletBoundaryUnknown => "wallet-boundary-unknown"
  | .submittedUnknown => "submitted-unknown"
  | .confirmed => "confirmed"
  | .reverted => "reverted"

def WalletBoundary.name : WalletBoundary → String
  | .notEntered => "not-entered"
  | .entered => "entered"

def parseAttempt (phase : Phase) (value : Json) : Option PhaseAttempt := do
  let row ← asRow value
  let state ← readName AttemptState.name
    [.preparing, .walletBoundaryUnknown, .submittedUnknown, .confirmed, .reverted]
    (← row.get? "state")
  let attemptId ← readText 512 (← row.get? "attemptId")
  let createdAt ← readTimestamp (← row.get? "createdAt")
  let updatedAt ← readTimestamp (← row.get? "updatedAt")
  let transactionHash ← optionalField (row.get? "transactionHash") (readText 512)
  let observation ← optionalField (row.get? "observation") (readText 512)
  let walletBoundary ← optionalField (row.get? "walletBoundary")
    (readName WalletBoundary.name [.notEntered, .entered])
  let target ← optionalField (row.get? "target") (parseAttemptTarget host)
  let hashOnlyFunding := decide (phase = .funding ∧ target = none ∧ state = .submittedUnknown) &&
    given transactionHash
  guard (hashOnlyFunding = true ∨ targetFits phase target = true)
  guard (state = .submittedUnknown → given transactionHash = true)
  guard (state = .walletBoundaryUnknown → walletBoundary = some .entered)
  return ⟨attemptId, state, createdAt, updatedAt, transactionHash, observation, walletBoundary,
    target⟩

def parseAttempts (value : Option Json) : Option Attempts :=
  match value with
  | none => some .empty
  | some value => do
    let row ← asRow value
    let read (phase : Phase) := optionalField (row.get? phase.name) (parseAttempt host phase)
    let funding ← read .funding
    let fill ← read .fill
    let claim ← read .claim
    let refund ← read .refund
    let reservationRelease ← read .reservationRelease
    let take ← read .take
    return ⟨funding, fill, claim, refund, reservationRelease, take⟩

def DealStage.name : DealStage → String
  | .empty => "empty"
  | .funded => "funded"
  | .filled => "filled"
  | .settled => "settled"
  | .timedOut => "timed-out"
  | .expired => "expired"

def parseObservation (isLocal : Bool) (value : Json) : Option RfqLocalDealObservation := do
  let row ← asRow value
  guard (isName "localnet-deal" (row.get? "source") = true)
  let number ← readNonNegative (← row.get? "status")
  let status ← dealStatuses.find? fun s => decide ((s.toNat : Int) = number)
  let stage ← readName DealStage.name [.empty, .funded, .filled, .settled, .timedOut, .expired]
    (← row.get? "stage")
  let dealId ← readId isLocal (← row.get? "dealId")
  let escrowAddress ← readText 512 (← row.get? "escrowAddress")
  let observedAt ← readTimestamp (← row.get? "observedAt")
  let legAToken ← optionalField (row.get? "legAToken") (readText 512)
  let legAAmount ← optionalField (row.get? "legAAmount") (readDecimal false)
  let legBToken ← optionalField (row.get? "legBToken") (readText 512)
  let legBTerms ← optionalField (row.get? "legBTerms") (readDecimal false)
  let legBAmount ← optionalField (row.get? "legBAmount") (readDecimal false)
  let deadline ← optionalField (row.get? "deadline") readTimestamp
  let ticket ← optionalField (row.get? "ticket") (readText 512)
  let commitmentDigest ← optionalField (row.get? "commitmentDigest") (readText 512)
  return ⟨dealId, escrowAddress, status, stage, observedAt, legAToken, legAAmount, legBToken,
    legBTerms, legBAmount, deadline, ticket, commitmentDigest⟩

def EvidenceStatus.name : EvidenceStatus → String
  | .localNonAuthoritative => "local-non-authoritative"
  | .authoritative => "authoritative"
  | .stale => "stale"
  | .disagreement => "disagreement"
  | .reorged => "reorged"
  | .quarantined => "quarantined"

/-- A browser row is no authority: it is at revision 0, and what it calls authoritative is stale. -/
def parseEvidenceAuthority (now : Int) (value : Option Json) : Option RfqEvidenceAuthority :=
  match value with
  | none => some (defaultEvidenceAuthority now)
  | some value => do
    let row ← asRow value
    let persisted ← readName EvidenceStatus.name
      [.localNonAuthoritative, .authoritative, .stale, .disagreement, .reorged, .quarantined]
      (← row.get? "status")
    let status := if persisted = .authoritative then EvidenceStatus.stale else persisted
    let _ ← readNonNegative (← row.get? "revision")
    let label ←
      if status = .stale then some "Verification pending".toList
      else readText 512 (← row.get? "label")
    let observedAt ← readTimestamp (← row.get? "observedAt")
    return ⟨status, label, 0, observedAt⟩

/-! ## The row -/

def lifecycleSchemaRevision : String := "app20/rfq-lifecycle/v3"
def lifecycleV2SchemaRevision : String := "app20/rfq-lifecycle/v2"
def lifecycleV1SchemaRevision : String := "app20/rfq-lifecycle/v1"
def resumeAuthorityLabel : String := "Local resume record · not settlement authority"

def parseRecoveryReadFailure (value : Json) : Option RecoveryReadFailure := do
  let detail ← readText 512 (← value.get? "detail")
  let observedAt ← readTimestamp (← value.get? "observedAt")
  return ⟨detail, observedAt⟩

/-- The mode of a row of schema v2 or v3. -/
def parseMode (row : Json) : Option Mode :=
  let schema := row.get? "schemaRevision"
  if isName lifecycleV2SchemaRevision schema = true then some .v2
  else if isName lifecycleSchemaRevision schema = true then
    (row.get? "mode").bind (readName Mode.name [.v2, .v3])
  else none

def parseSigningKey (state : RfqLifecycleState) (restoredFromBackup : Bool) (row : Json) :
    Option (Option Text) :=
  if v3StateKeepsSigningKey state = false ∨ restoredFromBackup = true then some none
  else optionalField (row.get? "takerSigningKey") readLocalId

/-- The record that a row of schema v2 or v3 says, before it is checked against its context. -/
def parseRow (row : Json) (fromBackup : Bool) : Option RfqLifecycleRecord := do
  let mode ← parseMode row
  guard (isName resumeAuthorityLabel (row.get? "authority") = true)
  let state ← readName RfqLifecycleState.name RfqLifecycleState.all (← row.get? "state")
  let updatedAt ← readTimestamp (← row.get? "updatedAt")
  let chainId ← readText 512 (← row.get? "chainId")
  let chainId ← (canonicalRfqChainId host chainId).toOption
  let isLocal := isLocalRfqChain host chainId
  let terms ← optionalField (row.get? "terms") parseTerms
  let selectedQuote ← optionalField (row.get? "selectedQuote") parseSelectedQuote
  let settlement ← optionalField (row.get? "settlement") (parseSettlement isLocal)
  let latestObservation ← optionalField (row.get? "latestObservation") (parseObservation isLocal)
  let bucket ← optionalField (row.get? "bucket") parseBucket
  let fills ← optionalField (row.get? "fills") parseV3Fills
  let transcriptAcknowledgements ←
    optionalField (row.get? "transcriptAcknowledgements") parseTranscriptAcknowledgements
  let restoredFromBackup := decide (mode = .v3) &&
    (fromBackup || isTrue (row.get? "restoredFromBackup"))
  let account ← readText 512 (← row.get? "account")
  let account ← (canonicalRfqAccount account).toOption
  let rfqId ← readText 512 (← row.get? "rfqId")
  let rfqId ← (canonicalExecutableId host rfqId chainId).toOption
  let storageRevision ← optionalField (row.get? "storageRevision") readNonNegative
  let attempts ← parseAttempts host (row.get? "attempts")
  let evidenceAuthority ← parseEvidenceAuthority updatedAt (row.get? "evidenceAuthority")
  let requestDigest ← optionalField (row.get? "requestDigest") (readText 512)
  let quoteExpiresAt ← optionalField (row.get? "quoteExpiresAt") readTimestamp
  let reservationExpiresAt ← optionalField (row.get? "reservationExpiresAt") readTimestamp
  let transactionHash ← optionalField (row.get? "transactionHash") (readText 512)
  let takerCommitment ← optionalField (row.get? "takerCommitment") readLocalId
  let takerSigningKey ← parseSigningKey state restoredFromBackup row
  let takeTransactionHash ← optionalField (row.get? "takeTransactionHash") (readText 512)
  let reason ← optionalField (row.get? "reason") (readText 512)
  let recoveryReadFailure ←
    optionalField (row.get? "recoveryReadFailure") parseRecoveryReadFailure
  return {
    mode, chainId, account, rfqId, state, updatedAt
    storageRevision := storageRevision.getD 0
    storagePredecessorRevision := none
    terms, selectedQuote, settlement, attempts, latestObservation, evidenceAuthority
    requestDigest, quoteExpiresAt, reservationExpiresAt, transactionHash, bucket, takerCommitment
    takerSigningKey, fills, takeTransactionHash, transcriptAcknowledgements, reason
    serverDerived := isName "server-derived" (row.get? "recoverySource")
    recoveryReadFailure, restoredFromBackup
    persisted := false }

/-! ## Writing -/

def stringField (name : String) (value : Option Text) : List (String × Json) :=
  Json.optional name (value.map Json.string)

def numberField (name : String) (value : Option Int) : List (String × Json) :=
  Json.optional name (value.map Json.number)

def Bucket.json (bucket : Bucket) : Json :=
  .object [("min", .string bucket.min), ("max", .string bucket.max)]

def RfqV3Fill.json (fill : RfqV3Fill) : Json :=
  .object [("makerId", .string fill.makerId), ("lockId", .string fill.lockId),
    ("amountA", .string fill.amountA), ("amountB", .string fill.amountB),
    ("lockExpiresAt", .number fill.lockExpiresAt)]

def RfqTranscriptAcknowledgement.json (acknowledgement : RfqTranscriptAcknowledgement) : Json :=
  .object ([("makerId", .string acknowledgement.makerId),
    ("accepted", .bool acknowledgement.accepted),
    ("consistent", .bool acknowledgement.consistent)] ++
    stringField "reason" acknowledgement.reason)

def RfqExactTerms.json (terms : RfqExactTerms) : Json :=
  .object ([("pairId", .string terms.pairId), ("sellSymbol", .string terms.sellSymbol),
    ("sellAddress", .string terms.sellAddress), ("sellDecimals", .number terms.sellDecimals),
    ("sellAmount", .string terms.sellAmount), ("buySymbol", .string terms.buySymbol),
    ("buyAddress", .string terms.buyAddress), ("buyDecimals", .number terms.buyDecimals)] ++
    stringField "minBuyAmount" terms.minBuyAmount ++ stringField "buyAmount" terms.buyAmount ++
    [("rfqExpiresAt", .number terms.rfqExpiresAt)])

def RfqSelectedQuote.json (quote : RfqSelectedQuote) : Json :=
  .object ([("version", .string quote.version.name.toList), ("solverId", .string quote.solverId),
    ("solverKey", .string quote.solverKey), ("nonce", .string quote.nonce),
    ("reservationId", .string quote.reservationId), ("spreadBps", .number quote.spreadBps),
    ("pricingProvenance", .string quote.pricingProvenance), ("quotedAt", .number quote.quotedAt),
    ("quoteExpiresAt", .number quote.quoteExpiresAt),
    ("reservationExpiresAt", .number quote.reservationExpiresAt),
    ("buyAmount", .string quote.buyAmount), ("intentDigest", .string quote.intentDigest),
    ("signature", .string quote.signature)] ++
    stringField "quoteDigest" quote.quoteDigest ++
    stringField "reservationFence" quote.reservationFence)

def RfqSettlementIdentity.json (settlement : RfqSettlementIdentity) : Json :=
  .object ([("version", .string settlement.version.name.toList),
    ("escrowAddress", .string settlement.escrowAddress), ("dealId", .string settlement.dealId)] ++
    stringField "ticketAddress" settlement.ticketAddress ++
    stringField "commitmentDigest" settlement.commitmentDigest ++
    [("deadline", .number settlement.deadline)])

def SettlementTarget.fields (target : SettlementTarget) : List (String × Json) :=
  [("dealId", .string target.dealId), ("solverId", .string target.solverId),
    ("reservationId", .string target.reservationId),
    ("reservationFence", .string target.reservationFence),
    ("quoteDigest", .string target.quoteDigest), ("sellToken", .string target.sellToken),
    ("sellAmount", .string target.sellAmount), ("buyToken", .string target.buyToken),
    ("buyAmount", .string target.buyAmount), ("deadline", .number target.deadline)]

def TakeFill.json (fill : TakeFill) : Json :=
  .object [("lockId", .string fill.lockId), ("amountA", .string fill.amountA),
    ("amountB", .string fill.amountB)]

def TakeExpected.json (expected : TakeExpected) : Json :=
  .object [("tokenA", .string expected.tokenA), ("totalA", .string expected.totalA),
    ("tokenB", .string expected.tokenB), ("totalB", .string expected.totalB),
    ("fills", .array (expected.fills.map (·.json)))]

def AttemptTarget.json (target : AttemptTarget) : Json :=
  let scope := [("chainId", Json.string target.chainId), ("account", .string target.account),
    ("rfqId", .string target.rfqId), ("requestDigest", .string target.requestDigest)]
  let named (operation : String) (fields : List (String × Json)) : Json :=
    .object (("operation", .string operation.toList) :: (scope ++ fields))
  match target.operation with
  | .requestReservations releaseLeaseId =>
    named "request-reservations" [("releaseLeaseId", .string releaseLeaseId)]
  | .fundedSettlementExpiry dealId escrowAddress solverId reservationId reservationFence
      quoteDigest =>
    named "funded-settlement-expiry" [("dealId", .string dealId),
      ("escrowAddress", .string escrowAddress), ("solverId", .string solverId),
      ("reservationId", .string reservationId), ("reservationFence", .string reservationFence),
      ("quoteDigest", .string quoteDigest)]
  | .fundingTicket settlement => named "funding-ticket" settlement.fields
  | .makerFill settlement ticketAddress =>
    named "maker-fill" (settlement.fields ++ [("ticketAddress", .string ticketAddress)])
  | .take dealId expected =>
    named "take" [("dealId", .string dealId), ("expected", expected.json)]

def PhaseAttempt.json (attempt : PhaseAttempt) : Json :=
  .object ([("attemptId", .string attempt.attemptId),
    ("state", .string attempt.state.name.toList), ("createdAt", .number attempt.createdAt),
    ("updatedAt", .number attempt.updatedAt)] ++
    stringField "transactionHash" attempt.transactionHash ++
    stringField "observation" attempt.observation ++
    stringField "walletBoundary" (attempt.walletBoundary.map fun b => b.name.toList) ++
    Json.optional "target" (attempt.target.map (·.json)))

def Attempts.json (attempts : Attempts) : Json :=
  .object (Phase.all.flatMap fun phase =>
    Json.optional phase.name ((attempts.get phase).map (·.json)))

def RfqLocalDealObservation.json (observation : RfqLocalDealObservation) : Json :=
  .object ([("source", .string "localnet-deal".toList), ("dealId", .string observation.dealId),
    ("escrowAddress", .string observation.escrowAddress),
    ("status", .number observation.status.toNat),
    ("stage", .string observation.stage.name.toList),
    ("observedAt", .number observation.observedAt)] ++
    stringField "legAToken" observation.legAToken ++
    stringField "legAAmount" observation.legAAmount ++
    stringField "legBToken" observation.legBToken ++
    stringField "legBTerms" observation.legBTerms ++
    stringField "legBAmount" observation.legBAmount ++
    numberField "deadline" observation.deadline ++ stringField "ticket" observation.ticket ++
    stringField "commitmentDigest" observation.commitmentDigest)

def RfqEvidenceAuthority.json (authority : RfqEvidenceAuthority) : Json :=
  .object [("status", .string authority.status.name.toList), ("label", .string authority.label),
    ("revision", .number authority.revision), ("observedAt", .number authority.observedAt)]

def RecoveryReadFailure.json (failure : RecoveryReadFailure) : Json :=
  .object [("detail", .string failure.detail), ("observedAt", .number failure.observedAt)]

def RfqLifecycleRecord.row (record : RfqLifecycleRecord) : Json :=
  .object ([("schemaRevision", .string lifecycleSchemaRevision.toList),
    ("authority", .string resumeAuthorityLabel.toList),
    ("mode", .string record.mode.name.toList), ("chainId", .string record.chainId),
    ("account", .string record.account), ("rfqId", .string record.rfqId),
    ("state", .string record.state.name.toList), ("updatedAt", .number record.updatedAt),
    ("storageRevision", .number record.storageRevision)] ++
    Json.optional "terms" (record.terms.map (·.json)) ++
    Json.optional "selectedQuote" (record.selectedQuote.map (·.json)) ++
    Json.optional "settlement" (record.settlement.map (·.json)) ++
    [("attempts", record.attempts.json)] ++
    Json.optional "latestObservation" (record.latestObservation.map (·.json)) ++
    [("evidenceAuthority", record.evidenceAuthority.json)] ++
    stringField "requestDigest" record.requestDigest ++
    numberField "quoteExpiresAt" record.quoteExpiresAt ++
    numberField "reservationExpiresAt" record.reservationExpiresAt ++
    stringField "transactionHash" record.transactionHash ++
    Json.optional "bucket" (record.bucket.map (·.json)) ++
    stringField "takerCommitment" record.takerCommitment ++
    stringField "takerSigningKey" record.takerSigningKey ++
    Json.optional "fills" (record.fills.map fun fills => .array (fills.map (·.json))) ++
    stringField "takeTransactionHash" record.takeTransactionHash ++
    Json.optional "transcriptAcknowledgements" (record.transcriptAcknowledgements.map fun acks =>
      .array (acks.map (·.json))) ++
    stringField "reason" record.reason ++
    (if record.serverDerived = true then [("recoverySource", .string "server-derived".toList)]
      else []) ++
    Json.optional "recoveryReadFailure" (record.recoveryReadFailure.map (·.json)) ++
    if record.restoredFromBackup = true then [("restoredFromBackup", .bool true)] else [])

/-! ## Reading -/

/-- What holds of the result of a reader, by its first read. -/
theorem read_bind {α β : Type} {P : β → Prop} {x : Option α} {f : α → Option β}
    (h : ∀ a, x = some a → ∀ b, f a = some b → P b) : ∀ b, (x >>= f) = some b → P b := by
  intro b hb
  obtain ⟨a, ha, hb⟩ := Option.bind_eq_some_iff.mp hb
  exact h a ha b hb

/-! ## Fields of a row -/

theorem lookup_field_ne {field key : String} {value : Json} {rest : List (String × Json)}
    (h : key ≠ field) : ((field, value) :: rest).lookup key = rest.lookup key := by
  rw [List.lookup_cons, beq_false_of_ne h]

theorem lookup_skip {xs ys : List (String × Json)} {key : String} (h : key ∉ xs.map Prod.fst) :
    (xs ++ ys).lookup key = ys.lookup key := by
  rw [List.lookup_append, List.lookup_eq_none_iff.mpr ?_, Option.none_or]
  intro p hp
  rw [bne_iff_ne]
  rintro rfl
  exact h (List.mem_map_of_mem hp)

theorem not_mem_optional {field key : String} {value : Option Json} (h : key ≠ field) :
    key ∉ (Json.optional field value).map Prod.fst := by
  cases value with
  | none => exact List.not_mem_nil
  | some v => exact fun hmem => h (List.mem_singleton.mp hmem)

theorem row_schema (record : RfqLifecycleRecord) :
    record.row.get? "schemaRevision" = some (.string lifecycleSchemaRevision.toList) := by
  unfold RfqLifecycleRecord.row Json.get?
  simp only [List.append_assoc, List.cons_append]
  exact List.lookup_cons_self

theorem row_mode (record : RfqLifecycleRecord) :
    record.row.get? "mode" = some (.string record.mode.name.toList) := by
  unfold RfqLifecycleRecord.row Json.get?
  simp only [List.append_assoc, List.cons_append]
  rw [lookup_field_ne (by decide), lookup_field_ne (by decide)]
  exact List.lookup_cons_self

/-- The mark of a backup is the last field. -/
theorem row_backup (record : RfqLifecycleRecord) :
    record.row.get? "restoredFromBackup" =
      if record.restoredFromBackup = true then some (.bool true) else none := by
  unfold RfqLifecycleRecord.row Json.get? stringField numberField
  dsimp only
  rw [lookup_skip]
  · split <;> rfl
  · simp only [List.map_append, List.mem_append, not_or]
    repeat' constructor
    all_goals first
      | exact not_mem_optional (by decide)
      | (simp only [List.map_cons, List.map_nil]; decide)
      | (split <;> decide)

theorem parseMode_row (record : RfqLifecycleRecord) : parseMode record.row = some record.mode := by
  unfold parseMode
  rw [row_schema, row_mode]
  cases record.mode <;> decide +kernel

variable {host}

theorem parseRow_marks {row : Json} {fromBackup : Bool} : ∀ read,
    parseRow host row fromBackup = some read → parseMode row = some read.mode ∧
      read.restoredFromBackup =
        (decide (read.mode = .v3) && (fromBackup || isTrue (row.get? "restoredFromBackup"))) ∧
      parseSigningKey read.state read.restoredFromBackup row = some read.takerSigningKey := by
  unfold parseRow
  refine read_bind fun mode hmode => ?_
  iterate 29 refine read_bind fun _ _ => ?_
  refine read_bind fun key hkey => ?_
  iterate 3 refine read_bind fun _ _ => ?_
  rintro read ⟨⟩
  exact ⟨hmode, rfl, hkey⟩

end App20.Rfq
