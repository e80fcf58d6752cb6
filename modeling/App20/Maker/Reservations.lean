import App20.Maker.Capacity

/-!
# The lifecycle of reservations

What a maker node does with its reservations after it has made them: signing, selecting,
releasing, filling, and reconciling with an outside authority. Each function here is the program
of one transaction.
-/

namespace App20.Maker

open App20.Lib App20.Lib.Exec App20.Domain App20.Intents
open App20.Reservation (MakerReservation ReservationCommand StoredReservation SignedQuote
  ReconciliationOutcome ReconciliationBinding QuarantineReason AuthorityQuarantine
  TerminalReconciliation transitionMakerReservation canonicalMakerReservation maxSafeInteger)

/-! ## Signing -/

def quoteDomain : Text := "app20/private-intent-quote/v1".toList
def quoteV2Domain : Text := "app20/private-intent-quote/v2".toList

def isSafeInteger (n : Int) : Bool := -maxSafeInteger ≤ n ∧ n ≤ maxSafeInteger

/-- The comparison of a quote with its reservation that both versions make. -/
def quoteMatches (config : Config) (quote : UnsignedSolverQuote) (r : StoredReservation)
    (now : Int) : Bool :=
  quote.pool = config.pool ∧ toLowerCase quote.helper = toLowerCase config.helper ∧
  quote.solverId = r.solverId ∧ quote.solverKey = r.solverKey ∧
  quote.intentDigest = r.reservation.intentDigest ∧ quote.nonce = r.nonce ∧
  toLowerCase quote.sellToken = toLowerCase r.sellToken ∧ quote.sellAmount = r.sellAmount ∧
  toLowerCase quote.buyToken = toLowerCase r.buyToken ∧ quote.buyAmount = r.buyAmount ∧
  quote.spreadBps = r.spreadBps ∧ quote.pricingProvenance = r.pricingProvenance ∧
  quote.reservationExpiresAt = r.reservation.expiresAt ∧
  isSafeInteger quote.quotedAt ∧ quote.quotedAt ≤ now + 30 ∧
  isSafeInteger quote.quoteExpiresAt ∧ quote.quotedAt < quote.quoteExpiresAt ∧
  quote.quoteExpiresAt ≤ r.reservation.expiresAt

/-- A signature of the canonical text, once: the text that was signed before is signed again, and
no other. -/
def signCanonical (r : StoredReservation) (canonical : Text) (signer : Except Text Text)
    (digest : Text → Except String Text) (equivocation : String) : BooksM (Text × Text) := do
  match r.quote with
  | some quote =>
    assert (quote.signedCanonical = canonical) (.node equivocation)
    return (quote.signature, canonical)
  | none =>
    let signature ← lift (do requireText (← ofAnswer signer) "signature")
    let quoteDigest ← lift (ofProtocol (digest signature))
    putRecord { r with quote := some ⟨canonical, signature, quoteDigest⟩ }
    return (signature, canonical)

def signable (reservationId : Text) (now : Int) (message : String) : BooksM StoredReservation := do
  pruneDraft now
  let id ← lift (requireHex32 reservationId "reservationId")
  let b ← get
  expect ((b.records.get? id).filter fun r => r.reservation.state = .reserved) (.node message)

def signQuote (config : Config) (quote : UnsignedSolverQuote) (canonical : Text)
    (signer : Except Text Text) (now : Int) : BooksM (Text × Text) := do
  let r ← signable quote.reservationId now
    "Quote reservation is missing, expired, or no longer signable."
  let reconstructed ← lift (ofProtocol (config.canonicalSolverQuote quote))
  assert (canonical = reconstructed)
    (.node "Quote canonical payload does not match its fields.")
  assert (quote.domain = quoteDomain ∧ quoteMatches config quote r now = true)
    (.node "Quote does not match its durable inventory reservation.")
  signCanonical r canonical signer (fun _ => .ok (config.quoteDigest canonical))
    "Maker refused quote equivocation for this reservation."

def signQuoteV2 (config : Config) (quote : UnsignedSolverQuoteV2) (canonical : Text)
    (signer : Except Text Text) (now : Int) : BooksM (Text × Text) := do
  let r ← signable quote.reservationId now
    "Quote v2 reservation is missing, expired, or no longer signable."
  assert (quote.domain = quoteV2Domain) (.node "Only quote v2 may use signQuoteV2.")
  let reconstructed ← lift (ofProtocol (config.canonicalSolverQuoteV2 quote))
  assert (canonical = reconstructed)
    (.node "Quote v2 canonical payload does not match its fields.")
  assert (quoteMatches config quote.toUnsignedSolverQuote r now = true ∧
      quote.rfqDigest = r.reservation.rfqDigest ∧ quote.reservationFence = r.reservation.fence)
    (.node "Quote v2 does not match its durable inventory reservation.")
  signCanonical r canonical signer (config.digestSolverQuoteV2 quote)
    "Maker refused quote v2 equivocation for this reservation."

/-! ## Selecting and releasing -/

/-- A transition of a reservation, with the new version put in its place. -/
def putTransition (r : StoredReservation) (command : ReservationCommand) :
    BooksM MakerReservation := do
  let reservation ← lift (ofProtocol (transitionMakerReservation r.reservation command))
  putRecord { r with reservation }
  return reservation

def select (reservationId intentDigest : Text) (now : Int) : BooksM (Int × Text) := do
  pruneDraft now
  let id ← lift (requireHex32 reservationId "reservationId")
  let expectedIntentDigest ← lift (requireHex32 intentDigest "intentDigest")
  let b ← get
  let message := MakerError.node "Only a signed active reservation can be selected."
  let r ← expect ((b.records.get? id).filter fun r =>
    r.reservation.intentDigest = expectedIntentDigest) message
  let quote ← expect r.quote message
  if r.reservation.state = .selected then
    return (r.reservation.fence, quote.quoteDigest)
  else
    assert (r.reservation.state = .reserved) message
    let selected ← putTransition r (.select r.reservation.fence now quote.quoteDigest)
    return (selected.fence, quote.quoteDigest)

def release (reservationId : Text) (now : Int) (reason : Text) : BooksM Bool := do
  pruneDraft now
  let id ← lift (requireHex32 reservationId "reservationId")
  let b ← get
  match b.records.get? id with
  | none => return false
  | some r =>
    if r.reservation.state = .released then return true
    else if r.reservation.state ≠ .reserved ∧ r.reservation.state ≠ .selected then return false
    else if r.reservation.expiresAt ≤ now then return false
    else
      let _ ← putTransition r (.release r.reservation.fence now reason)
      return true

/-! ## Targets of a reconciliation -/

structure MakerReconciliationTarget where
  reservationId : Text
  intentDigest : Text
  fence : Int
  quoteDigest : Text
  dealId : Text
  sellToken : Text
  sellAmount : Int
  buyToken : Text
  buyAmount : Int
  deadline : Int
  ticketAddress : Text
  deriving DecidableEq

def canonicalReconciliationTarget (input : MakerReconciliationTarget) :
    Except MakerError MakerReconciliationTarget := do
  let reservationId ← requireHex32 input.reservationId "reservationId"
  let intentDigest ← requireHex32 input.intentDigest "intentDigest"
  let fence ← requireAmount input.fence "selection fence"
  let quoteDigest ← requireHex32 input.quoteDigest "quoteDigest"
  let dealId ← requireFeltText input.dealId "dealId"
  let sellToken ← requireFeltText input.sellToken "sellToken"
  let sellAmount ← requireAmount input.sellAmount "sellAmount"
  let buyToken ← requireFeltText input.buyToken "buyToken"
  let buyAmount ← requireAmount input.buyAmount "buyAmount"
  let deadline ← requireTimestamp input.deadline "deadline"
  let ticketAddress ← requireFeltText input.ticketAddress "ticketAddress"
  return ⟨reservationId, intentDigest, fence, quoteDigest, dealId, sellToken, sellAmount, buyToken,
    buyAmount, deadline, ticketAddress⟩

def selectionFenceForReconciliation (r : StoredReservation) : Except MakerError Int :=
  match r.terminalReconciliation, r.authorityQuarantine with
  | some t, _ => .ok t.binding.selectionFence
  | none, some q => .ok q.binding.selectionFence
  | none, none =>
    let fence := r.reservation.fence
    match r.reservation.state with
    | .selected => .ok fence
    | .filling => .ok (fence - 1)
    | .consumed => .ok (fence - 2)
    | .quarantined => .ok (fence - if r.reservation.settlementAttemptId.isSome then 2 else 1)
    | .reserved | .released | .expired =>
      .error (.node "Reservation state has no terminal reconciliation authority.")

/-- The fields of a record that never change agree with the target. -/
def targetMatches (config : Config) (r : StoredReservation) (target : MakerReconciliationTarget) :
    Bool :=
  r.solverId = config.makerId ∧ r.reservation.intentDigest = target.intentDigest ∧
  r.quote.map SignedQuote.quoteDigest = some target.quoteDigest ∧
  toLowerCase r.sellToken = target.sellToken ∧ r.sellAmount = target.sellAmount ∧
  toLowerCase r.buyToken = target.buyToken ∧ r.buyAmount = target.buyAmount ∧
  r.rfqExpiresAt = target.deadline

def assertReconciliationBinding (config : Config) (record : Option StoredReservation)
    (target : MakerReconciliationTarget) : Except MakerError StoredReservation :=
  let refused := MakerError.node
    "Maker reservation does not match the exact terminal reconciliation target."
  match record with
  | none => .error refused
  | some r => do
    throwIf (targetMatches config r target = false ∨ r.settlementDealId ≠ some target.dealId ∨
      r.settlementDeadline ≠ some target.deadline ∨
      r.settlementTicketAddress ≠ some target.ticketAddress) refused
    throwIf ((← selectionFenceForReconciliation r) ≠ target.fence) refused
    return r

structure MakerReconciliationSnapshot where
  makerId : Text
  intentDigest : Text
  reservationId : Text
  fence : Int
  quoteDigest : Text
  dealId : Option Text
  sellToken : Text
  sellAmount : Int
  buyToken : Text
  buyAmount : Int
  deadline : Int
  ticketAddress : Text
  state : Reservation.ReservationState
  settlementTransactionHash : Option Text
  authorityQuarantine : Option AuthorityQuarantine
  terminalReconciliation : Option TerminalReconciliation

def reconciliationSnapshot (r : StoredReservation) :
    Except MakerError MakerReconciliationSnapshot :=
  match r.quote, r.settlementTicketAddress, r.settlementDeadline with
  | some quote, some ticketAddress, some deadline => do
    let fence ← selectionFenceForReconciliation r
    return ⟨r.solverId, r.reservation.intentDigest, r.reservation.reservationId, fence,
      quote.quoteDigest, r.settlementDealId, r.sellToken, r.sellAmount, r.buyToken, r.buyAmount,
      deadline, ticketAddress, r.reservation.state, r.reservation.settlementTransactionHash,
      r.authorityQuarantine, r.terminalReconciliation⟩
  | _, _, _ =>
    .error (.node "Maker reservation lacks durable settlement reconciliation fields.")

/-- `bindSettlementForReconciliation`, for a canonical target. -/
def bindSettlement (config : Config) (target : MakerReconciliationTarget) (now : Int) :
    BooksM MakerReconciliationSnapshot := do
  pruneDraft now
  let b ← get
  let refused := MakerError.node "Maker refused a substituted settlement reconciliation binding."
  let r ← expect (b.records.get? target.reservationId) refused
  assert (targetMatches config r target = true) refused
  let fence ← lift (selectionFenceForReconciliation r)
  assert (fence = target.fence ∧ r.settlementDealId.all (· = target.dealId) ∧
    r.settlementDeadline.all (· = target.deadline) ∧
    r.settlementTicketAddress.all (· = target.ticketAddress)) refused
  let bound : StoredReservation :=
    { r with
      settlementDealId := some target.dealId, settlementDeadline := some target.deadline
      settlementTicketAddress := some target.ticketAddress }
  putRecord bound
  lift (reconciliationSnapshot bound)

/-- `readReconciliationSnapshot`, for a canonical target. -/
def readSnapshot (config : Config) (target : MakerReconciliationTarget) (now : Int) :
    BooksM MakerReconciliationSnapshot := do
  pruneDraft now
  let b ← get
  let r ← lift (assertReconciliationBinding config (b.records.get? target.reservationId) target)
  lift (reconciliationSnapshot r)

/-! ## Authorities -/

/-- What an authority says of an outcome. -/
structure AuthorityRequest where
  target : MakerReconciliationTarget
  attemptId : Text
  authorityDigest : Text
  authorityRevision : Int
  outcome : ReconciliationOutcome
  deriving DecidableEq

/-- The checks on an authority's request before its transaction. -/
def canonicalAuthorityRequest (label : String) (input : AuthorityRequest) :
    Except MakerError AuthorityRequest := do
  let target ← canonicalReconciliationTarget input.target
  let attemptId ← requireText input.attemptId (label ++ " attemptId")
  let authorityDigest ← requireHex32 input.authorityDigest (label ++ " authorityDigest")
  let authorityRevision ← requireTimestamp input.authorityRevision (label ++ " authorityRevision")
  return ⟨target, attemptId, authorityDigest, authorityRevision, input.outcome⟩

def AuthorityRequest.binding (input : AuthorityRequest) : ReconciliationBinding :=
  ⟨input.attemptId, input.authorityDigest, input.authorityRevision, input.outcome,
    input.target.fence⟩

def quarantineText (reason : QuarantineReason) : Text :=
  match reason with
  | .authorityReorged => "chain authority reorged; exact reconciliation required".toList
  | .authorityDisagreement => "chain readers disagreed; exact reconciliation required".toList

def quarantinedVersion (r : MakerReservation) (reason : QuarantineReason) (now : Int) :
    MakerReservation :=
  if r.state = .quarantined then
    { r with updatedAt := now, terminalReason := some (quarantineText reason) }
  else
    { r with
      state := .quarantined, fence := r.fence + 1, updatedAt := now
      terminalReason := some (quarantineText reason) }

@[simp] theorem quarantinedVersion_state (r : MakerReservation) (reason : QuarantineReason)
    (now : Int) : (quarantinedVersion r reason now).state = .quarantined := by
  unfold quarantinedVersion
  split
  · assumption
  · rfl

/-- A quarantine with a higher revision than those before. -/
def newQuarantine (input : AuthorityRequest) (reason : QuarantineReason) (now : Int)
    (r : StoredReservation) : BooksM MakerReconciliationSnapshot := do
  assert (¬ r.terminalReconciliation.any fun t =>
      t.binding.outcome ≠ input.outcome ∨ input.authorityRevision ≤ t.binding.authorityRevision)
    (.node "Maker refused authority quarantine that did not supersede terminal authority.")
  assert (r.reservation.updatedAt ≤ now)
    (.node "Authority quarantine time moved behind reservation history.")
  let reservation := quarantinedVersion r.reservation reason now
  let _ ← lift (ofProtocol (canonicalMakerReservation reservation))
  let next := { r with reservation, authorityQuarantine := some ⟨input.binding, reason, now⟩ }
  putRecord next
  lift (reconciliationSnapshot next)

def quarantineForAuthority (config : Config) (input : AuthorityRequest) (reason : QuarantineReason)
    (now : Int) : BooksM MakerReconciliationSnapshot := do
  pruneDraft now
  let b ← get
  let r ← lift
    (assertReconciliationBinding config (b.records.get? input.target.reservationId) input.target)
  match r.authorityQuarantine with
  | none => newQuarantine input reason now r
  | some prior =>
    assert (prior.binding.authorityRevision ≤ input.authorityRevision)
      (.node "Maker refused a stale authority quarantine revision.")
    if prior.binding.authorityRevision = input.authorityRevision then
      assert (prior.binding = input.binding ∧ prior.reason = reason)
        (.node "Maker refused authority quarantine equivocation.")
      lift (reconciliationSnapshot r)
    else newQuarantine input reason now r

/-- Inventory that an authority may call settled: attempted, with the very transaction. -/
def settledMatches (r : MakerReservation) (settlementTransactionHash : Text) : Bool :=
  (r.state = .consumed ∨ r.state = .quarantined) ∧ r.settlementAttemptId.isSome ∧
    r.settlementTransactionHash.map toLowerCase = some settlementTransactionHash

/-- Inventory that an authority may call refunded: never attempted. -/
def refundAllowed (r : MakerReservation) (prior : Option TerminalReconciliation) : Bool :=
  (r.state = .selected ∨ r.state = .quarantined ∨
      r.state = .released ∧ (prior.any fun t => t.binding.outcome = .refunded)) ∧
    r.settlementAttemptId = none ∧ r.settlementTransactionHash = none

def terminalVersion (r : MakerReservation) (outcome : ReconciliationOutcome) (now : Int) :
    MakerReservation :=
  match outcome with
  | .settled =>
    if r.state = .consumed then r
    else { r with state := .consumed, fence := r.fence + 1, updatedAt := now }
  | .refunded =>
    if r.state = .released then r
    else
      { r with
        state := .released, fence := r.fence + 1, updatedAt := now
        terminalReason := some "exact chain-authoritative refund reconciled".toList }

@[simp] theorem terminalVersion_settled_state (r : MakerReservation) (now : Int) :
    (terminalVersion r .settled now).state = .consumed := by
  unfold terminalVersion
  dsimp only
  split
  · assumption
  · rfl

@[simp] theorem terminalVersion_refunded_state (r : MakerReservation) (now : Int) :
    (terminalVersion r .refunded now).state = .released := by
  unfold terminalVersion
  dsimp only
  split
  · assumption
  · rfl

/-- The inventory of a record is what the outcome says. -/
def checkOutcome (r : StoredReservation) (outcome : ReconciliationOutcome)
    (settlementTransactionHash : Option Text) : Except MakerError Unit :=
  match outcome with
  | .settled => do
    let hash ← requireFeltText (settlementTransactionHash.getD []) "settlementTransactionHash"
    throwIf (settledMatches r.reservation hash = false)
      (.node "Settled authority does not match consumed maker inventory.")
  | .refunded =>
    throwIf (refundAllowed r.reservation r.terminalReconciliation = false)
      (.node "Refund authority cannot release attempted or consumed maker inventory.")

def newTerminal (input : AuthorityRequest) (settlementTransactionHash : Option Text) (now : Int)
    (r : StoredReservation) : BooksM MakerReconciliationSnapshot := do
  assert (¬ r.terminalReconciliation.any fun t => t.binding.outcome ≠ input.outcome)
    (.node "Maker refused terminal reconciliation outcome equivocation.")
  assert (¬ r.authorityQuarantine.any fun q =>
      input.authorityRevision ≤ q.binding.authorityRevision)
    (.node "Terminal authority does not supersede the maker quarantine revision.")
  lift (checkOutcome r input.outcome settlementTransactionHash)
  assert (r.reservation.updatedAt ≤ now)
    (.node "Terminal reconciliation time moved behind reservation history.")
  let reservation := terminalVersion r.reservation input.outcome now
  let _ ← lift (ofProtocol (canonicalMakerReservation reservation))
  let next := { r with reservation, terminalReconciliation := some ⟨input.binding, now⟩ }
  putRecord next
  lift (reconciliationSnapshot next)

/-- `reconcileAuthoritativeTerminal` on a reservation, for a canonical request. -/
def reconcileTerminal (config : Config) (input : AuthorityRequest)
    (settlementTransactionHash : Option Text) (now : Int) : BooksM MakerReconciliationSnapshot := do
  pruneDraft now
  let b ← get
  let r ← lift
    (assertReconciliationBinding config (b.records.get? input.target.reservationId) input.target)
  match r.terminalReconciliation with
  | none => newTerminal input settlementTransactionHash now r
  | some prior =>
    assert (prior.binding.authorityRevision ≤ input.authorityRevision)
      (.node "Maker refused a stale terminal reconciliation revision.")
    if prior.binding.authorityRevision = input.authorityRevision then
      assert (prior.binding = input.binding)
        (.node "Maker refused terminal reconciliation equivocation.")
      lift (reconciliationSnapshot r)
    else newTerminal input settlementTransactionHash now r

/-! ## Filling -/

structure MakerFillRequest where
  reservationId : Text
  intentDigest : Text
  fence : Int
  quoteDigest : Text
  dealId : Text
  sellToken : Text
  sellAmount : Int
  buyToken : Text
  buyAmount : Int
  deadline : Int
  ticketAddress : Text

/-- The comparison of `exactTerms` after the digests. -/
def fillMatches (r : StoredReservation) (request : MakerFillRequest) : Bool :=
  request.sellToken.length ≤ maxFeltHexLength ∧
  toLowerCase r.sellToken = toLowerCase request.sellToken ∧ r.sellAmount = request.sellAmount ∧
  request.buyToken.length ≤ maxFeltHexLength ∧
  toLowerCase r.buyToken = toLowerCase request.buyToken ∧ r.buyAmount = request.buyAmount ∧
  request.deadline = r.rfqExpiresAt ∧ request.dealId.length ≤ maxFeltHexLength ∧
  request.ticketAddress.length ≤ maxFeltHexLength ∧ isFeltHex (toLowerCase request.dealId) ∧
  isFeltHex (toLowerCase request.ticketAddress) ∧
  r.settlementDealId.all (· = toLowerCase request.dealId) ∧
  r.settlementDeadline.all (· = request.deadline) ∧
  r.settlementTicketAddress.all (· = toLowerCase request.ticketAddress)

def exactTerms (current : Option StoredReservation) (request : MakerFillRequest) :
    Except MakerError Bool :=
  match current with
  | none => .ok false
  | some r => do
    let intentDigest ← requireHex32 request.intentDigest "intentDigest"
    if r.reservation.intentDigest ≠ intentDigest then return false
    else
      let quoteDigest ← requireHex32 request.quoteDigest "quoteDigest"
      return decide (r.quote.map SignedQuote.quoteDigest = some quoteDigest) &&
        fillMatches r request

/-- A fill is complete already, or is begun on a record. -/
inductive FillAcquisition where
  | complete (transactionHash : Text)
  | begun (record : StoredReservation)

/-- The first transaction of `fill`. -/
def beginFill (request : MakerFillRequest) (attemptId : Text) (now : Int) :
    BooksM FillAcquisition := do
  pruneDraft now
  let id ← lift (requireHex32 request.reservationId "reservationId")
  let b ← get
  let current := b.records.get? id
  let exact ← lift (exactTerms current request)
  let r ← expect (current.filter fun _ => exact)
    (.node "Selected reservation does not authorize this fill.")
  match r.reservation.state, r.reservation.settlementTransactionHash with
  | .consumed, some transactionHash =>
    assert (r.reservation.fence = request.fence + 2)
      (.node "Selected reservation does not authorize this fill.")
    return .complete transactionHash
  | .selected, _ =>
    assert (r.reservation.fence = request.fence)
      (.node "Selected reservation does not authorize this fill.")
    let settlementAttemptId ← lift (requireHex32 attemptId "settlementAttemptId")
    let reservation ← lift (ofProtocol (transitionMakerReservation r.reservation
      (.beginFill r.reservation.fence now settlementAttemptId)))
    let filling : StoredReservation :=
      { r with
        reservation, settlementDealId := some (toLowerCase request.dealId)
        settlementDeadline := some request.deadline
        settlementTicketAddress := some (toLowerCase request.ticketAddress) }
    putRecord filling
    return .begun filling
  | _, _ => throw (.node "Selected reservation does not authorize this fill.")

def fillingRecord (b : Books) (reservationId : Text) : Option StoredReservation :=
  (b.records.get? reservationId).filter fun r => r.reservation.state = .filling

def completeFill (reservationId transactionHash : Text) (now : Int) : BooksM Unit := do
  let b ← get
  let r ← expect (fillingRecord b reservationId)
    (.node "In-flight reservation changed during fill.")
  let _ ← putTransition r (.consume r.reservation.fence now transactionHash)

/-- The transaction of `fill` after a failure. -/
def failFill (reservationId : Text) (now : Int) : BooksM Unit := do
  let b ← get
  match fillingRecord b reservationId with
  | none => return ()
  | some r =>
    let _ ← putTransition r (.quarantine r.reservation.fence now
      "fill outcome unknown; operator reconciliation required".toList)

/-! ## Recovery -/

def quarantineFilling (now : Int) (r : StoredReservation) : Except MakerError StoredReservation :=
  if r.reservation.state = .filling then do
    let reservation ← ofProtocol (transitionMakerReservation r.reservation
      (.quarantine r.reservation.fence now
        "maker process restarted with unknown chain outcome".toList))
    return { r with reservation }
  else .ok r

/-- The first transaction of `recoverAfterRestart`. -/
def recoverDraft (now : Int) : BooksM Unit := do
  pruneDraft now
  let b ← get
  let records ← lift (b.records.mapM (quarantineFilling now))
  set { b with records }

end App20.Maker
