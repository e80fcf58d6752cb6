import App20.Intents.Rfq
import App20.Maker.Books

/-!
# Admission to the inventory

The two ways in which a maker node takes on an obligation to pay: `reserve`, which makes a
reservation, and the first transaction of `quoteV3`, which makes a lock. Both subtract what is
already owed from the private balance of the wallet.
-/

namespace App20.Maker

open App20.Lib App20.Lib.Exec App20.Domain App20.Intents
open App20.Reservation (MakerReservation StoredReservation createMakerReservation)

/-! ## Configuration -/

/-- The fields of a quote that both versions have; `solverKey` is `quoteKeyId` in version 2. -/
structure UnsignedSolverQuote where
  domain : Text
  pool : Text
  helper : Text
  sellToken : Text
  sellAmount : Int
  buyToken : Text
  intentDigest : Text
  solverId : Text
  solverKey : Text
  nonce : Text
  reservationId : Text
  reservationExpiresAt : Int
  buyAmount : Int
  spreadBps : Int
  pricingProvenance : Text
  quotedAt : Int
  quoteExpiresAt : Int

structure UnsignedSolverQuoteV2 extends UnsignedSolverQuote where
  rfqDigest : Text
  reservationFence : Int
  directoryDigest : Text
  directoryEpoch : Int
  registryRevision : Text
  escrowAddress : Text
  escrowClassHash : Text
  settlementContextDigest : Text

/-- The configuration of a node, with the canonical texts of quotes and the digests of canonical
texts, on which no result depends. -/
structure Config where
  makerId : Text
  solverKey : Text
  pool : Text
  helper : Text
  spreadBps : Int
  reservationTtlSeconds : Int
  tokenSymbol : Text → Option SizeBucketSymbol
  /-- There is an `economicPolicy.commit`. -/
  commits : Bool
  digestPrivateRfq : PrivateRfq → Text
  digestPrivateRfqV2 : PrivateRfqV2 → Text
  canonicalSolverQuote : UnsignedSolverQuote → Except String Text
  canonicalSolverQuoteV2 : UnsignedSolverQuoteV2 → Except String Text
  quoteDigest : Text → Text
  digestSolverQuoteV2 : UnsignedSolverQuoteV2 → Text → Except String Text

/-! ## `reserve` -/

structure MakerQuoteRequest where
  rfq : PrivateRfq
  rfqDigest : Text
  intentDigest : Text
  expiresAt : Int
  sellToken : Text
  sellAmount : Int
  buyToken : Text
  minBuyAmount : Int

structure MakerReservationOffer where
  solverId : Text
  solverKey : Text
  grossBuyAmount : Int
  sellToken : Text
  buyToken : Text
  spreadBps : Int
  provenance : Text
  nonce : Text
  reservationId : Text
  reservationExpiresAt : Int
  fence : Int

def toOffer (r : StoredReservation) : MakerReservationOffer :=
  ⟨r.solverId, r.solverKey, r.grossBuyAmount, r.sellToken, r.buyToken, r.spreadBps,
    r.pricingProvenance, r.nonce, r.reservation.reservationId, r.reservation.expiresAt,
    r.reservation.fence⟩

/-- What `reserve` gets from outside: the price, the private balance and two random ids. -/
structure ReserveAnswers where
  price : Except Text (Int × Text)
  privateBalance : Except Text Int
  reservationId : Text
  nonce : Text

/-- A replay is answered from the record; an admission was checked against a balance. -/
inductive Reserved where
  | replayed (offer : MakerReservationOffer)
  | admitted (offer : MakerReservationOffer) (walletBalance : Int)

def sameTerms (r : StoredReservation) (request : MakerQuoteRequest) : Prop :=
  r.reservation.intentDigest = request.intentDigest ∧ r.reservation.rfqDigest = request.rfqDigest ∧
  toLowerCase r.sellToken = toLowerCase request.sellToken ∧ r.sellAmount = request.sellAmount ∧
  toLowerCase r.buyToken = toLowerCase request.buyToken ∧ r.minBuyAmount = request.minBuyAmount ∧
  r.rfqExpiresAt = request.expiresAt

instance (r : StoredReservation) (request : MakerQuoteRequest) : Decidable (sameTerms r request) :=
  inferInstanceAs (Decidable (_ ∧ _))

/-- The checks of `reserve` before its transaction. -/
def checkRequest (config : Config) (request : MakerQuoteRequest) (now : Int) :
    Except MakerError Text := do
  let _ ← requireTimestamp now "now"
  let canonical ← ofProtocol (canonicalPrivateRfq request.rfq)
  let rfqDigest ← requireHex32 request.rfqDigest "rfqDigest"
  throwIf (rfqDigest ≠ config.digestPrivateRfq canonical)
    (.node "RFQ digest does not match the canonical RFQ.")
  let _ ← requireHex32 request.intentDigest "intentDigest"
  let _ ← requireTimestamp request.expiresAt "expiresAt"
  let _ ← requireAmount request.sellAmount "sellAmount"
  let _ ← requireAmount request.minBuyAmount "minBuyAmount"
  throwIf (request.rfq.intentDigest ≠ request.intentDigest ∨
      request.rfq.expiresAt ≠ request.expiresAt ∨
      toLowerCase request.rfq.sellToken ≠ toLowerCase request.sellToken ∨
      request.rfq.sellAmountBaseUnits ≠ request.sellAmount ∨
      toLowerCase request.rfq.buyToken ≠ toLowerCase request.buyToken ∨
      request.rfq.minBuyAmountBaseUnits ≠ request.minBuyAmount ∨ request.rfq.chainId ≠ config.pool ∨
      toLowerCase request.rfq.settlementHelper ≠ toLowerCase config.helper)
    (.node "RFQ request fields do not match the canonical private RFQ.")
  throwIf (request.expiresAt ≤ now) (.node "RFQ already expired.")
  return rfqDigest

/-- What reservations hold of a token, as `reserve` counts it: by the spelling of the token. -/
def reservedAs (records : Records) (token : Text) : Int :=
  records.total fun r =>
    if capacityLockedState r.reservation.state ∧ toLowerCase r.buyToken = toLowerCase token
    then r.buyAmount else 0

def legacyReserved (records : Records) (token : Text) : Int :=
  records.total fun r =>
    if capacityLockedState r.reservation.state ∧ sameFelt r.buyToken token then r.buyAmount else 0

def unresolvedLocks (locks : Locks) (token : Text) (now : Int) : Int :=
  locks.total fun r => if lockReservesCapacity r now ∧ sameFelt r.tokenB token then r.maxB else 0

def ofAnswer {α : Type} (x : Except Text α) : Except MakerError α :=
  x.mapError fun message => .node (String.ofList message)

/-- A new reservation, if the balance covers it beside what is counted as held. -/
def admitReservation (config : Config) (request : MakerQuoteRequest) (rfqDigest : Text)
    (answers : ReserveAnswers) (now : Int) : BooksM Reserved := do
  let (gross, provenance) ← lift (ofAnswer answers.price)
  let grossBuyAmount ← lift (requireAmount gross "grossBuyAmount")
  let buyAmount := (grossBuyAmount * (10000 - config.spreadBps)).tdiv 10000
  assert (request.minBuyAmount ≤ buyAmount) (.node "Maker quote is below the RFQ floor.")
  let balance ← lift (ofAnswer answers.privateBalance)
  let walletBalance ← lift (requireAmount balance "private inventory")
  let b ← get
  let reserved := reservedAs b.records request.buyToken
  let locks ← lift (cloneLocks b.locks)
  let unresolved := unresolvedLocks locks request.buyToken now
  assert (reserved + unresolved < walletBalance ∧ buyAmount ≤ walletBalance - reserved - unresolved)
    (.node "Private maker inventory cannot cover this RFQ.")
  let reservationId ← lift (requireHex32 answers.reservationId "reservationId")
  let nonce ← lift (requireHex32 answers.nonce "nonce")
  let reservation ← lift (ofProtocol (createMakerReservation reservationId config.makerId
    request.intentDigest rfqDigest request.buyToken buyAmount now
    (min request.expiresAt (now + config.reservationTtlSeconds)) (b.sequence + 1)))
  let pricingProvenance ← lift (requireText provenance "pricing provenance")
  let record : StoredReservation :=
    { reservation, nonce, solverId := config.makerId, solverKey := config.solverKey,
      spreadBps := config.spreadBps, sellToken := request.sellToken,
      sellAmount := request.sellAmount, buyToken := request.buyToken, grossBuyAmount, buyAmount,
      minBuyAmount := request.minBuyAmount, rfqExpiresAt := request.expiresAt, pricingProvenance,
      quote := none, settlementDealId := none, settlementDeadline := none,
      settlementTicketAddress := none, authorityQuarantine := none, terminalReconciliation := none }
  set { b with records := b.records.put record, made := b.made ++ [reservationId] }
  return .admitted (toOffer record) walletBalance

def reserveDraft (config : Config) (request : MakerQuoteRequest) (rfqDigest : Text)
    (answers : ReserveAnswers) (now : Int) : BooksM Reserved := do
  pruneDraft now
  let b ← get
  match b.records.entries.find? fun r => r.reservation.intentDigest = request.intentDigest with
  | none => admitReservation config request rfqDigest answers now
  | some existing =>
    assert (sameTerms existing request)
      (.node "RFQ intent digest was reused with different terms.")
    assert (existing.reservation.state = .reserved)
      (.node "RFQ intent replay is fenced by its durable reservation history.")
    return .replayed (toOffer existing)

/-! ## `quoteV3` -/

inductive RefusalCode where
  | bucket | insufficientInventory | policy | lockFailed | expired

structure Refusal where
  code : RefusalCode
  reason : Text

def quoteV3Refusal (code : RefusalCode) (reason : Text) : Except MakerError Refusal := do
  return ⟨code, ← requireText reason "reason"⟩

structure MakerSchedule where
  schedule : List PriceSchedulePoint
  spreadBps : Int
  pricingProvenance : Text

structure EconomicDecision where
  allowed : Bool
  reason : Option Text
  commitmentUsdcBaseUnits : Option Int

/-- What the first transaction of `quoteV3` gets from outside: the private balance, the schedule
for what is available, the decision on it (`none` if it is malformed) and two random texts. -/
structure QuoteAnswers where
  privateBalance : Except Text Int
  schedule : Except Text (Option MakerSchedule)
  decision : Except Text (Option EconomicDecision)
  lockId : Except Text Text
  nonce : Except Text Text

inductive Acquisition where
  | existing (record : StoredLock)
  | refused (refusal : Refusal)
  | acquired (record : StoredLock) (walletBalance : Int)

def MakerError.message : MakerError → Text
  | .node message | .contradiction message => message.toList

/-- The checks of `quoteV3` before its transaction: a refusal, or the digest of the RFQ. -/
def checkRfq (config : Config) (rfq : PrivateRfqV2) (now : Int) :
    Except MakerError (Refusal ⊕ Text) := do
  let _ ← requireTimestamp now "now"
  let canonical ← ofProtocol (canonicalPrivateRfqV2 rfq)
  throwIf (rfq.chainId ≠ config.pool ∨ sameFelt rfq.settlementHelper config.helper = false)
    (.node "RFQ v2 does not match this maker's localnet settlement context.")
  if rfq.responseDeadline ≤ now ∨ rfq.expiresAt ≤ now then
    return .inl (← quoteV3Refusal .expired "RFQ response or lock window expired.".toList)
  else
    let quoteTtlSeconds := rfq.lockExpiresAt - now
    if 90 < rfq.lockExpiresAt - rfq.createdAt ∨ quoteTtlSeconds ≤ 0 ∨ 90 < quoteTtlSeconds then
      return .inl (← quoteV3Refusal .policy "RFQ lock TTL must not exceed 90 seconds.".toList)
    else
      match config.tokenSymbol rfq.sellToken with
      | none =>
        return .inl (← quoteV3Refusal .policy
          "Maker supports only the reviewed STRK/USDC market.".toList)
      | some symbol =>
        match assertLadderBucket symbol
          ⟨rfq.sellBucketMinBaseUnits, rfq.sellBucketMaxBaseUnits⟩ with
        | .error e => return .inl (← quoteV3Refusal .bucket e.toList)
        | .ok _ => return .inr (config.digestPrivateRfqV2 canonical)

def refuse (code : RefusalCode) (reason : Text) : BooksM Acquisition := do
  return .refused (← lift (quoteV3Refusal code reason))

def checkBuilt (built : MakerSchedule) : Except MakerError Unit := do
  (assertPriceSchedule built.schedule).mapError fun e => .node e.message
  let _ ← requireSpread built.spreadBps
  let _ ← requireText built.pricingProvenance "pricing provenance"

def starkFieldPrime : Int := 2 ^ 251 + 17 * 2 ^ 192 + 1

def lockIdentity (answers : QuoteAnswers) : Except MakerError (Int × Text) := do
  let lockId ← requireFeltText (← ofAnswer answers.lockId) "lockId"
  let nonce ← requireHex32 (← ofAnswer answers.nonce) "lock nonce"
  match parseBigInt lockId with
  | none => .error (.node "lockId")
  | some value => return (value, nonce)

def putNewLock (rfq : PrivateRfqV2) (rfqDigest : Text) (built : MakerSchedule)
    (last : PriceSchedulePoint) (walletBalance : Int) (answers : QuoteAnswers) (now : Int) :
    BooksM Acquisition := do
  match lockIdentity answers with
  | .error _ =>
    refuse .policy "Maker lock identity generator returned invalid output.".toList
  | .ok (value, nonce) =>
    if value = 0 ∨ starkFieldPrime ≤ value then
      refuse .policy "Maker lock identity generator returned an invalid felt.".toList
    else
      let lockId := hex value.toNat
      let b ← get
      if (b.locks.get? lockId).isSome then
        refuse .policy "Maker lock identity collided with durable history.".toList
      else
        let record ← lift (canonicalStoredLock
          { lockId, rfqDigest, rfqFelt := rfq.rfqFelt, takerCommitment := rfq.takerCommitment,
            tokenA := rfq.sellToken, tokenB := rfq.buyToken, schedule := built.schedule,
            maxB := last.b, expiry := rfq.lockExpiresAt, ticket := "0x0".toList,
            lockTxHash := "0x0".toList, state := .locking, takenA := 0, takenB := 0,
            proceedsTxHash := none, releaseTxHash := none, quoteDigest := none,
            priorState := none, reconciliationFailures := none, nextReconciliationAt := none,
            reason := none, quarantinedAt := none, settlementAttemptCount := none,
            settlementAttempt := none, operatorResolution := none, nonce, quotedAt := now,
            spreadBps := built.spreadBps, pricingProvenance := built.pricingProvenance,
            signature := none, settlingAction := none, terminalReconciliation := none })
        set { b with locks := b.locks.put record }
        return .acquired record walletBalance

def decisionRefusal (config : Config) (decision : Except Text (Option EconomicDecision)) :
    Option Text :=
  match decision with
  | .error message => some message
  | .ok none => some "RFQ economic policy returned an invalid decision.".toList
  | .ok (some d) =>
    if d.allowed = false then
      match d.reason with
      | some reason =>
        if trim reason = [] then some "RFQ economic policy refused the schedule.".toList
        else some reason
      | none => some "RFQ economic policy refused the schedule.".toList
    else if config.commits = true ∧ d.commitmentUsdcBaseUnits.all (fun c => decide (c ≤ 0)) then
      some "RFQ economic policy did not produce a durable commitment amount.".toList
    else none

/-- A schedule within the bucket and the available inventory becomes a lock, if the economic
policy allows it. -/
def lockSchedule (config : Config) (rfq : PrivateRfqV2) (rfqDigest : Text) (built : MakerSchedule)
    (availableBuyInventory walletBalance : Int) (answers : QuoteAnswers) (now : Int) :
    BooksM Acquisition := do
  match checkBuilt built, built.schedule.head?, built.schedule.getLast? with
  | .ok _, some first, some last =>
    if first.a ≠ rfq.sellBucketMinBaseUnits ∨ rfq.sellBucketMaxBaseUnits < last.a ∨
        availableBuyInventory < last.b then
      refuse (if availableBuyInventory < last.b then .insufficientInventory else .policy)
        "Maker schedule is outside the authenticated bucket or inventory cap.".toList
    else
      match decisionRefusal config answers.decision with
      | some reason => refuse .policy reason
      | none => putNewLock rfq rfqDigest built last walletBalance answers now
  | .error e, _, _ => refuse .policy e.message
  | _, _, _ => refuse .policy ScheduleError.pointCount.message.toList

/-- The first transaction of `quoteV3`. -/
def acquireLock (config : Config) (rfq : PrivateRfqV2) (rfqDigest : Text) (answers : QuoteAnswers)
    (now : Int) : BooksM Acquisition := do
  let b ← get
  match b.locks.entries.find? fun r => r.rfqDigest = rfqDigest with
  | some prior =>
    if prior.signature.isSome ∧ prior.quoteDigest.isSome ∧ prior.state = .opened ∧
        prior.takenA = 0 ∧ prior.takenB = 0 ∧ now < prior.expiry then
      return .existing prior
    else
      refuse .policy "RFQ digest is fenced by its durable lock history.".toList
  | none =>
    match (do requireNonnegativeAmount (← ofAnswer answers.privateBalance) "private inventory") with
    | .error _ =>
      refuse .insufficientInventory "Private maker inventory is unavailable.".toList
    | .ok walletBalance =>
      let records ← lift (cloneRecords b.records)
      let unavailable :=
        unresolvedLocks b.locks rfq.buyToken now + legacyReserved records rfq.buyToken
      let availableBuyInventory := if unavailable < walletBalance then walletBalance - unavailable
        else 0
      match answers.schedule with
      | .error message => refuse .policy message
      | .ok none =>
        refuse .insufficientInventory
          "Private maker inventory cannot cover the bucket minimum.".toList
      | .ok (some built) =>
        lockSchedule config rfq rfqDigest built availableBuyInventory walletBalance answers now

end App20.Maker
