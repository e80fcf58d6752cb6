import App20.Otc.Networks
import App20.Lib.Attempts

/-!
# Payments of requests

The records of payment requests in the storage of one mailbox, and the operations on them. A payment
is reserved before the wallet opens, is submitted under a hash, and is confirmed, reverted or left
unknown. An operation that is rejected throws and stores nothing.
-/

namespace App20.Otc

open App20.Lib App20.Domain
open App20.Reservation (maxSafeInteger)

/-! ## Records -/

inductive ValueOperationState where
  | awaitingNoteMaturity | reserved | submitted | confirmed | reverted | unknown
  deriving DecidableEq

structure InvoiceTakeSettlement where
  takeTransactionHash : Text
  takeBlock : Int
  buyToken : Text
  amount : Text

/-- The fields of a take are there together, or not at all. -/
structure ValueOperationRecord where
  state : ValueOperationState
  attemptId : Option Text
  transactionHash : Option Text
  take : Option InvoiceTakeSettlement
  updatedAt : Int

inductive PaymentLinkAuthenticity where
  | unsigned
  | verified (mailboxPublicKey authPublicKey : Text)

inductive PaymentOrigin where
  | paymentLink
  deriving DecidableEq

inductive PaymentStatus where
  | requested | paid | expired
  deriving DecidableEq

structure PaymentRecord where
  requestId : Text
  status : PaymentStatus
  request : PaymentRequestPayload
  origin : Option PaymentOrigin
  linkAuthenticity : Option PaymentLinkAuthenticity
  receipt : Option ReceiptPayload
  paymentOperation : Option ValueOperationRecord
  paymentTxHash : Option Text
  paymentPending : Option Bool
  paymentVerified : Option Bool
  counterpartyPaymentClaim : Option AcceptPayload
  updatedAt : Int

/-- `state.payments`, by request id. -/
abbrev Payments := Text → Option PaymentRecord

def Payments.put (payments : Payments) (requestId : Text) (record : PaymentRecord) : Payments :=
  Function.update payments requestId (some record)

def PaymentRecord.state (r : PaymentRecord) : Option ValueOperationState :=
  r.paymentOperation.map ValueOperationRecord.state

/-- `current.paymentPending` -/
def PaymentRecord.pending (r : PaymentRecord) : Bool := r.paymentPending.getD false

/-- `Boolean(text)` -/
def truthy (text : Option Text) : Bool := text.any fun s => s ≠ []

/-! ## Takes -/

def operationTakeSettlement (operation : Option ValueOperationRecord) :
    Option InvoiceTakeSettlement := do
  let operation ← operation
  let take ← operation.take
  guard (isFelt take.takeTransactionHash = true ∧ 0 ≤ take.takeBlock ∧
    take.takeBlock ≤ maxSafeInteger ∧ isFelt take.buyToken = true ∧
    isPositiveBaseUnitAmount take.amount = true)
  return take

def noteMaturityBlocks : Int := 10

structure InvoicePaymentMaturity where
  mature : Bool
  matureAtBlock : Int
  blocksRemaining : Int

def noteMaturityStatus (takeBlock headBlock : Int) : Except String InvoicePaymentMaturity := do
  throwIf (¬ (0 ≤ headBlock ∧ headBlock ≤ maxSafeInteger))
    "Note maturity requires a valid head block."
  let matureAtBlock := takeBlock + noteMaturityBlocks
  if matureAtBlock ≤ headBlock then return ⟨true, matureAtBlock, 0⟩
  else return ⟨false, matureAtBlock, matureAtBlock - headBlock⟩

def invoicePaymentMaturity (payment : PaymentRecord) (headBlock : Int) :
    Except String (Option InvoicePaymentMaturity) :=
  match operationTakeSettlement payment.paymentOperation with
  | none => .ok none
  | some take => (noteMaturityStatus take.takeBlock headBlock).map some

/-! ## Requests -/

def paymentRequestsEqual (build : Build) (left right : PaymentRequestPayload)
    (storageChainId : Text) : Bool :=
  left.requestId = right.requestId && tokenRefsEqual left.token right.token &&
    left.amount = right.amount && left.memo.getD [] = right.memo.getD [] &&
    left.expiresAt = right.expiresAt && feltEquals left.requester right.requester &&
    paymentLinkChainIdsEqual build (left.chainId.getD storageChainId) storageChainId &&
    paymentLinkChainIdsEqual build (right.chainId.getD storageChainId) storageChainId

def paymentLinkAuthenticitiesEqual (left right : Option PaymentLinkAuthenticity) : Bool :=
  match left, right with
  | none, none => true
  | some .unsigned, some .unsigned => true
  | some (.verified mailboxKey authKey), some (.verified mailboxKey' authKey') =>
    mailboxKey = mailboxKey' && authKey = authKey'
  | _, _ => false

def requestedStatus (request : PaymentRequestPayload) (now : Int) : PaymentStatus :=
  if paymentRequestIsExpired request now then .expired else .requested

def importsLink (existing : PaymentRecord) (parsed : PaymentRequestPayload)
    (origin : Option PaymentOrigin) (linkAuthenticity : Option PaymentLinkAuthenticity) : Bool :=
  origin = some .paymentLink &&
    (existing.origin ≠ origin || existing.request.chainId.isNone && parsed.chainId.isSome ||
      !paymentLinkAuthenticitiesEqual existing.linkAuthenticity linkAuthenticity)

def PaymentRecord.importLink (existing : PaymentRecord) (parsed : PaymentRequestPayload)
    (origin : Option PaymentOrigin) (linkAuthenticity : Option PaymentLinkAuthenticity) :
    PaymentRecord :=
  { existing with
    request := parsed
    origin
    linkAuthenticity := linkAuthenticity.or existing.linkAuthenticity }

def newPaymentRecord (parsed : PaymentRequestPayload) (origin : Option PaymentOrigin)
    (linkAuthenticity : Option PaymentLinkAuthenticity) (now : Int) : PaymentRecord where
  requestId := parsed.requestId
  status := requestedStatus parsed now
  request := parsed
  origin := origin
  linkAuthenticity := linkAuthenticity
  receipt := none
  paymentOperation := none
  paymentTxHash := none
  paymentPending := none
  paymentVerified := none
  counterpartyPaymentClaim := none
  updatedAt := now

def recordPaymentRequestWithOrigin (build : Build) (chainId : Text) (payments : Payments)
    (request : Json) (now : Int) (origin : Option PaymentOrigin)
    (linkAuthenticity : Option PaymentLinkAuthenticity) : Except String Payments :=
  match parsePaymentRequestPayload request with
  | none => .error "Invalid payment request payload."
  | some parsed => do
    throwIf (paymentLinkChainIdsEqual build (parsed.chainId.getD chainId) chainId = false)
      "Payment request is bound to another Starknet network."
    match payments parsed.requestId with
    | some existing =>
      throwIf (paymentRequestsEqual build existing.request parsed chainId = false)
        "Conflicting payment terms reuse an existing request id; the duplicate was rejected."
      if importsLink existing parsed origin linkAuthenticity then
        return payments.put parsed.requestId (existing.importLink parsed origin linkAuthenticity)
      else return payments
    | none =>
      return payments.put parsed.requestId (newPaymentRecord parsed origin linkAuthenticity now)

def recordPaymentRequest (build : Build) (chainId : Text) (payments : Payments) (request : Json)
    (now : Int) : Except String Payments :=
  recordPaymentRequestWithOrigin build chainId payments request now none none

def recordPaymentLinkRequest (build : Build) (chainId : Text) (payments : Payments)
    (request : Json) (linkAuthenticity : PaymentLinkAuthenticity) (now : Int) :
    Except String Payments :=
  recordPaymentRequestWithOrigin build chainId payments request now (some .paymentLink)
    (some linkAuthenticity)

def PaymentRecord.expire (current : PaymentRecord) (now : Int) : PaymentRecord :=
  { current with status := .expired, updatedAt := now }

/-- A request of `expireStoredDeals`. -/
def expirePayment (payment : PaymentRecord) (now : Int) : PaymentRecord :=
  if payment.status = .requested ∧ paymentRequestIsExpired payment.request now = true then
    payment.expire now
  else payment

/-! ## Claims -/

def PaymentRecord.awaitMaturity (current : PaymentRecord) (take : InvoiceTakeSettlement)
    (now : Int) : PaymentRecord :=
  { current with
    paymentOperation := some ⟨.awaitingNoteMaturity, none, none, some take, now⟩
    paymentPending := some false
    paymentVerified := some false
    updatedAt := now }

def recordInvoiceTakeSettled (build : Build) (chainId : Text) (payments : Payments)
    (requestId : Text) (input : InvoiceTakeSettlement) (now : Int) : Except String Payments :=
  match payments requestId with
  | none => .error "The invoice request is not stored locally."
  | some current => do
    let token ← resolvePaymentRequestTokenForChain build current.request chainId
    throwIf (isCanonicalStrkToken token = true) "A STRK invoice does not require an RFQ take."
    throwIf (current.status ≠ .requested ∨ current.pending = true ∨
        isFelt input.takeTransactionHash = false ∨
        ¬ (0 ≤ input.takeBlock ∧ input.takeBlock ≤ maxSafeInteger) ∨
        isPositiveBaseUnitAmount input.amount = false ∨
        feltEquals input.buyToken token.address = false ∨ input.amount ≠ current.request.amount)
      "The settled invoice take does not match the reviewed request."
    let existing := operationTakeSettlement current.paymentOperation
    if current.state = some .awaitingNoteMaturity then
      throwIf (¬ ∃ take ∈ existing,
          feltEquals take.takeTransactionHash input.takeTransactionHash = true ∧
          take.takeBlock = input.takeBlock ∧ feltEquals take.buyToken input.buyToken = true ∧
          take.amount = input.amount)
        "A different settled take is already bound to this invoice."
      return payments
    else
      throwIf (current.paymentOperation ≠ none) "This invoice already has a payment operation."
      return payments.put requestId
        (current.awaitMaturity { input with buyToken := token.address } now)

/-- The take of an invoice is the one that was asked for, and its note has matured. -/
def checkMaturity (current : PaymentRecord) (token : TokenRef) (maturityHeadBlock : Option Int) :
    Except String Unit :=
  match operationTakeSettlement current.paymentOperation with
  | none => .error "The settled invoice take record is invalid."
  | some take => do
    throwIf (feltEquals take.buyToken token.address = false ∨ take.amount ≠ current.request.amount)
      "The settled invoice take record is invalid."
    match maturityHeadBlock with
    | none => .error "The received invoice note maturity must be checked first."
    | some headBlock =>
      let maturity ← invoicePaymentMaturity current headBlock
      match maturity with
      | none => .error "The received invoice note matures at block unknown."
      | some maturity =>
        throwIf (maturity.mature = false)
          ("The received invoice note matures at block " ++ toString maturity.matureAtBlock ++ ".")

/-- A claim that finds the request expired stores that, and then throws. -/
inductive PaymentClaim where
  | expired (payments : Payments)
  | claimed (requestId : Text) (payments : Payments)

def PaymentRecord.reserve (current : PaymentRecord) (attemptId : Text) (now : Int) :
    PaymentRecord :=
  { current with
    status := .paid
    paymentOperation := some
      ⟨.reserved, some attemptId, none, operationTakeSettlement current.paymentOperation, now⟩
    paymentTxHash := none
    paymentPending := some true
    paymentVerified := some false
    updatedAt := now }

/-- `attemptId` is the random id that is drawn. -/
def claimPaymentInternal (build : Build) (chainId : Text) (payments : Payments)
    (expectedRequest : Json) (attemptId : Text) (now : Int) (maturityHeadBlock : Option Int) :
    Except String PaymentClaim :=
  match parsePaymentRequestPayload expectedRequest with
  | none => .error "Invalid expected payment request terms."
  | some parsedExpected =>
    match payments parsedExpected.requestId with
    | none => .error "Payment request terms do not match the locally reviewed record."
    | some current => do
      throwIf (paymentRequestsEqual build current.request parsedExpected chainId = false)
        "Payment request terms do not match the locally reviewed record."
      throwIf (current.status ≠ .requested ∨ current.pending = true)
        "This request was already paid; no second transfer was sent."
      let token ← resolvePaymentRequestTokenForChain build current.request chainId
      if current.state = some .awaitingNoteMaturity then
        checkMaturity current token maturityHeadBlock
      if paymentRequestIsExpired current.request now then
        return .expired (payments.put parsedExpected.requestId (current.expire now))
      else
        return .claimed parsedExpected.requestId
          (payments.put parsedExpected.requestId (current.reserve attemptId now))

def claimPayment (build : Build) (chainId : Text) (payments : Payments) (expectedRequest : Json)
    (attemptId : Text) (now : Int) : Except String PaymentClaim :=
  claimPaymentInternal build chainId payments expectedRequest attemptId now none

def claimMatureInvoicePayment (build : Build) (chainId : Text) (payments : Payments)
    (expectedRequest : Json) (headBlock : Int) (attemptId : Text) (now : Int) :
    Except String PaymentClaim :=
  claimPaymentInternal build chainId payments expectedRequest attemptId now (some headBlock)

/-- The record with what the payer says. -/
def PaymentRecord.note (current : PaymentRecord) (accept : AcceptPayload) (now : Int) :
    PaymentRecord :=
  { current with counterpartyPaymentClaim := some accept, updatedAt := now }

def recordUnverifiedPaymentClaim (build : Build) (chainId : Text) (payments : Payments)
    (acceptPayload : Json) (now : Int) : Except String Payments :=
  match parseAcceptPayload acceptPayload with
  | none => .error "Invalid payment claim payload."
  | some accept =>
    match payments accept.dealId with
    | none => .error "The referenced payment request is not stored locally."
    | some current => do
      throwIf (paymentRequestIsExpired current.request now = true)
        "This payment request is no longer payable."
      let _ ← resolvePaymentRequestTokenForChain build current.request chainId
      throwIf (transfersEqual accept.transfer
          ⟨current.request.token, current.request.amount, current.request.requester⟩ = false)
        "Payment claim does not match the requested private transfer."
      return payments.put current.requestId (current.note accept now)

/-! ## Outcomes -/

def PaymentRecord.proceed (current : PaymentRecord) (state : ValueOperationState)
    (transactionHash : Option Text) (now : Int) : ValueOperationRecord :=
  ⟨state, current.paymentOperation.bind ValueOperationRecord.attemptId, transactionHash,
    operationTakeSettlement current.paymentOperation, now⟩

def PaymentRecord.submit (current : PaymentRecord) (transactionHash : Text) (now : Int) :
    PaymentRecord :=
  { current with
    paymentOperation := some (current.proceed .submitted (some transactionHash) now)
    paymentTxHash := some transactionHash
    paymentPending := some true
    paymentVerified := some false
    updatedAt := now }

def markPaymentSubmitted (payments : Payments) (requestId transactionHash : Text) (now : Int) :
    Except String Payments :=
  match payments requestId with
  | none => .error "No matching reserved payment can be submitted."
  | some current => do
    throwIf (current.status ≠ .paid ∨ current.state ≠ some .reserved ∨
        isFelt transactionHash = false)
      "No matching reserved payment can be submitted."
    return payments.put requestId (current.submit transactionHash now)

def PaymentRecord.submittedHash (r : PaymentRecord) : Option Text :=
  match r.paymentOperation with
  | some operation =>
    if operation.state = .submitted ∧ truthy operation.transactionHash = true then
      operation.transactionHash
    else none
  | none => none

def PaymentRecord.confirm (current : PaymentRecord) (transactionHash : Text)
    (receipt : ReceiptPayload) (now : Int) : PaymentRecord :=
  { current with
    receipt := some receipt
    paymentOperation := some (current.proceed .confirmed (some transactionHash) now)
    paymentTxHash := some transactionHash
    paymentPending := some false
    paymentVerified := some true
    updatedAt := now }

def confirmPayment (payments : Payments) (requestId transactionHash : Text)
    (receipt : ReceiptPayload) (now : Int) : Except String Payments :=
  match payments requestId with
  | none => .error "No submitted payment can be confirmed."
  | some current => do
    throwIf (current.status ≠ .paid ∨ current.submittedHash = none)
      "No submitted payment can be confirmed."
    throwIf (receipt.dealId ≠ requestId ∨ isFelt transactionHash = false ∨
        feltEquals receipt.txHash transactionHash = false ∨
        (∃ hash ∈ current.submittedHash, feltEquals hash transactionHash = false) ∨
        (∃ hash ∈ current.paymentTxHash, feltEquals hash transactionHash = false) ∨
        transfersEqual receipt.transfer
          ⟨current.request.token, current.request.amount, current.request.requester⟩ = false)
      "Payment receipt does not match the requested private transfer."
    return payments.put requestId (current.confirm transactionHash receipt now)

inductive Outcome where
  | reverted | unknown
  deriving DecidableEq

def unknownWithoutHash (current : PaymentRecord) (transactionHash : Option Text)
    (outcome : Outcome) : Bool :=
  outcome = .unknown && transactionHash.isNone && current.state = some .reserved &&
    current.pending && truthy (current.paymentOperation.bind ValueOperationRecord.attemptId) &&
    !truthy current.paymentTxHash

def matchesSubmitted (submittedHash transactionHash : Option Text) : Bool :=
  match submittedHash, transactionHash with
  | some submitted, some hash => isFelt hash && feltEquals submitted hash
  | _, _ => false

/-- The record of a payment with an outcome. What was reverted waits for its note again, where there
is one. -/
def PaymentRecord.settle (current : PaymentRecord) (transactionHash : Option Text)
    (outcome : Outcome) (now : Int) : PaymentRecord :=
  { current with
    status := match outcome with
      | .reverted => requestedStatus current.request now
      | .unknown => .paid
    paymentOperation := some (match outcome, operationTakeSettlement current.paymentOperation with
      | .reverted, some take => ⟨.awaitingNoteMaturity, none, none, some take, now⟩
      | .reverted, none => current.proceed .reverted transactionHash now
      | .unknown, _ => current.proceed .unknown transactionHash now)
    paymentTxHash := transactionHash
    paymentPending := some (outcome = .unknown)
    paymentVerified := some false
    updatedAt := now }

def markPaymentOutcome (payments : Payments) (requestId : Text) (transactionHash : Option Text)
    (outcome : Outcome) (now : Int) : Except String Payments :=
  match payments requestId with
  | none => .error "No matching submitted payment can be reconciled."
  | some current => do
    throwIf (current.status ≠ .paid ∨ unknownWithoutHash current transactionHash outcome = false ∧
          matchesSubmitted current.submittedHash transactionHash = false)
      "No matching submitted payment can be reconciled."
    return payments.put requestId (current.settle transactionHash outcome now)

/-- A payment that was reserved and never submitted. -/
def releasable (current : PaymentRecord) : Bool :=
  current.status = .paid && current.state = some .reserved && current.pending &&
    !truthy current.paymentTxHash

def PaymentRecord.release (current : PaymentRecord) (now : Int) : PaymentRecord :=
  { requestId := current.requestId
    status := requestedStatus current.request now
    request := current.request
    origin := current.origin
    linkAuthenticity := current.linkAuthenticity
    receipt := none
    paymentOperation := (operationTakeSettlement current.paymentOperation).map fun take =>
      ⟨.awaitingNoteMaturity, none, none, some take, now⟩
    paymentTxHash := none
    paymentPending := some false
    paymentVerified := some false
    counterpartyPaymentClaim := current.counterpartyPaymentClaim
    updatedAt := now }

def releasePayment (payments : Payments) (requestId : Text) (now : Int) : Payments :=
  match payments requestId with
  | some current =>
    if releasable current then payments.put requestId (current.release now) else payments
  | none => payments

end App20.Otc
