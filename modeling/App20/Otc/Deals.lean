import App20.Otc.Payments

/-!
# Deals

The records of offers in the storage of one mailbox, and the operations on them. An acceptance is
reserved before the wallet opens, as a payment is; a deal is closed by a receipt that matches the
acceptance that was confirmed. What the other party says is kept beside the record.
-/

namespace App20.Otc

open App20.Lib App20.Domain

/-! ## Records -/

inductive DealStatus where
  | offered | accepted | closed | declined | expired
  deriving DecidableEq

def DealStatus.name : DealStatus → String
  | .offered => "offered"
  | .accepted => "accepted"
  | .closed => "closed"
  | .declined => "declined"
  | .expired => "expired"

structure DealRecord where
  dealId : Text
  status : DealStatus
  offer : OfferPayload
  accept : Option AcceptPayload
  receipt : Option ReceiptPayload
  acceptOperation : Option ValueOperationRecord
  acceptTxHash : Option Text
  acceptPending : Option Bool
  settlementVerified : Option Bool
  counterpartyAcceptClaim : Option AcceptPayload
  counterpartyReceiptClaim : Option ReceiptPayload
  updatedAt : Int

/-- `state.deals`, by deal id. -/
abbrev Deals := Text → Option DealRecord

def Deals.put (deals : Deals) (dealId : Text) (record : DealRecord) : Deals :=
  Function.update deals dealId (some record)

def DealRecord.state (r : DealRecord) : Option ValueOperationState :=
  r.acceptOperation.map ValueOperationRecord.state

def DealRecord.pending (r : DealRecord) : Bool := r.acceptPending.getD false

def DealRecord.verified (r : DealRecord) : Bool := r.settlementVerified.getD false

/-! ## Events -/

inductive OtcDealEvent where
  | offer (payload : Json)
  | accept (payload : Json)
  | acceptClaim (payload : Json)
  | decline (payload : Json)
  | receipt (payload : Json)
  | receiptClaim (payload : Json)
  | expire

/-- `event.payload.dealId`; the event that carries no payload names no deal. -/
def OtcDealEvent.dealId (event : OtcDealEvent) : Text :=
  let payload : Json := match event with
    | .offer payload | .accept payload | .acceptClaim payload | .decline payload
    | .receipt payload | .receiptClaim payload => payload
    | .expire => .null
  match payload.get? "dealId" with
  | some (.string s) => s
  | _ => []

def OtcDealEvent.isExpire : OtcDealEvent → Bool
  | .expire => true
  | _ => false

def legsEqual (left right : Leg) : Bool :=
  tokenRefsEqual left.token right.token && left.amount = right.amount

def offersEqual (left right : OfferPayload) : Bool :=
  left.dealId = right.dealId && legsEqual left.give right.give && legsEqual left.want right.want &&
    feltEquals left.offerer right.offerer && left.expiresAt = right.expiresAt &&
    left.note.getD [] = right.note.getD []

def assertSettlesStrk (offer : OfferPayload) : Except String Unit := do
  throwIf (isCanonicalStrkToken offer.give.token = false)
    "Chat can settle only STRK with canonical metadata on the give leg."
  throwIf (hasConsistentTokenMetadata offer.want.token = false)
    "The offered want leg contains inconsistent STRK metadata."

/-- What is transferred when an offer is accepted. -/
def OfferPayload.transfer (offer : OfferPayload) : Transfer :=
  ⟨offer.give.token, offer.give.amount, offer.offerer⟩

def assertAcceptMatchesOffer (offer : OfferPayload) (dealId : Text) (transfer : Transfer) :
    Except String Unit := do
  assertSettlesStrk offer
  throwIf (dealId ≠ offer.dealId ∨ transfersEqual transfer offer.transfer = false)
    "Accept transfer does not match the offered STRK terms."

def offeredStatus (offer : OfferPayload) (now : Int) : DealStatus :=
  if offerIsExpired offer now then .expired else .offered

def newDealRecord (offer : OfferPayload) (now : Int) : DealRecord where
  dealId := offer.dealId
  status := offeredStatus offer now
  offer := offer
  accept := none
  receipt := none
  acceptOperation := none
  acceptTxHash := none
  acceptPending := none
  settlementVerified := none
  counterpartyAcceptClaim := none
  counterpartyReceiptClaim := none
  updatedAt := now

/-- `transitionDeal` on an offer. -/
def transitionOffer (current : Option DealRecord) (payload : Json) (now : Int) :
    Except String DealRecord :=
  match parseOfferPayload payload with
  | none => .error "Invalid OTC offer payload."
  | some offer =>
    match current with
    | some current => do
      throwIf (current.dealId ≠ offer.dealId ∨ offersEqual current.offer offer = false)
        "Conflicting OTC terms reuse an existing deal id; the duplicate was rejected."
      return current
    | none => .ok (newDealRecord offer now)

def lapsed (current : DealRecord) (now : Int) : Bool :=
  current.status = .offered && offerIsExpired current.offer now

def DealRecord.expire (current : DealRecord) (now : Int) : DealRecord :=
  { current with status := .expired, updatedAt := now }

/-- The deal with what the other party says of its acceptance. -/
def DealRecord.noteAccept (current : DealRecord) (accept : AcceptPayload) (now : Int) :
    DealRecord :=
  { current with counterpartyAcceptClaim := some accept, updatedAt := now }

def DealRecord.noteReceipt (current : DealRecord) (receipt : ReceiptPayload) (now : Int) :
    DealRecord :=
  { current with counterpartyReceiptClaim := some receipt, updatedAt := now }

def transitionAcceptClaim (current : DealRecord) (payload : Json) (now : Int) :
    Except String DealRecord :=
  match parseAcceptPayload payload with
  | none => .error "Invalid OTC accept claim payload."
  | some accept => do
    assertAcceptMatchesOffer current.offer accept.dealId accept.transfer
    return current.noteAccept accept now

def transitionReceiptClaim (current : DealRecord) (payload : Json) (now : Int) :
    Except String DealRecord :=
  match parseReceiptPayload payload with
  | none => .error "Invalid OTC receipt claim payload."
  | some receipt => do
    assertAcceptMatchesOffer current.offer receipt.dealId receipt.transfer
    throwIf (truthy current.acceptTxHash = true ∧
        ∃ hash ∈ current.acceptTxHash, feltEquals receipt.txHash hash = false)
      "Receipt transaction hash does not match the recorded accept transaction."
    return current.noteReceipt receipt now

def DealRecord.takeUp (current : DealRecord) (accept : AcceptPayload) (now : Int) : DealRecord :=
  { current with
    status := .accepted
    accept := some accept
    acceptPending := some false
    settlementVerified := some false
    updatedAt := now }

def transitionAccept (current : DealRecord) (payload : Json) (now : Int) :
    Except String DealRecord :=
  if current.status = .accepted ∨ current.status = .closed then .ok current
  else do
    throwIf (current.status ≠ .offered) ("Cannot accept a " ++ current.status.name ++ " deal.")
    match parseAcceptPayload payload with
    | none => .error "Invalid OTC accept payload."
    | some accept =>
      assertAcceptMatchesOffer current.offer accept.dealId accept.transfer
      return current.takeUp accept now

def DealRecord.decline (current : DealRecord) (now : Int) : DealRecord :=
  { current with status := .declined, updatedAt := now }

def transitionDecline (current : DealRecord) (payload : Json) (now : Int) :
    Except String DealRecord :=
  if current.status = .declined then .ok current
  else do
    throwIf (current.status ≠ .offered) ("Cannot decline a " ++ current.status.name ++ " deal.")
    throwIf (parseDeclinePayload payload = none) "Invalid OTC decline payload."
    return current.decline now

/-- The receipt is one for the acceptance that was confirmed. -/
def matchesVerifiedAccept (current : DealRecord) (receipt : ReceiptPayload) : Bool :=
  (current.status = .accepted || current.status = .closed) && current.verified &&
    match current.accept, current.acceptTxHash with
    | some accept, some hash =>
      hash ≠ [] && transfersEqual receipt.transfer accept.transfer && feltEquals receipt.txHash hash
    | _, _ => false

def DealRecord.close (current : DealRecord) (receipt : ReceiptPayload) (now : Int) : DealRecord :=
  { current with
    status := .closed
    receipt := some receipt
    acceptPending := some false
    settlementVerified := some true
    updatedAt := now }

def transitionReceipt (current : DealRecord) (payload : Json) (now : Int) :
    Except String DealRecord :=
  match parseReceiptPayload payload with
  | none => .error "Invalid OTC receipt payload."
  | some receipt => do
    throwIf (matchesVerifiedAccept current receipt = false)
      "Receipt does not match the locally verified accept transaction."
    if current.status = .closed then return current
    else return current.close receipt now

/-- `transitionDeal` on a message about a stored deal whose offer has not lapsed. -/
def transitionByMessage (current : DealRecord) (event : OtcDealEvent) (now : Int) :
    Except String DealRecord :=
  match event with
  | .acceptClaim payload => transitionAcceptClaim current payload now
  | .receiptClaim payload => transitionReceiptClaim current payload now
  | .accept payload => transitionAccept current payload now
  | .decline payload => transitionDecline current payload now
  | .receipt payload => transitionReceipt current payload now
  | .offer _ | .expire => .ok current

/-- `transitionDeal` on a stored deal, by an event that is no offer. -/
def transitionStored (current : DealRecord) (event : OtcDealEvent) (now : Int) :
    Except String DealRecord := do
  if event.isExpire then return if lapsed current now then current.expire now else current
  else
    throwIf (event.dealId ≠ current.dealId) "OTC payload dealId does not match the local deal."
    if lapsed current now then return current.expire now
    else transitionByMessage current event now

def transitionDeal (current : Option DealRecord) (event : OtcDealEvent) (now : Int) :
    Except String DealRecord :=
  match event with
  | .offer payload => transitionOffer current payload now
  | event =>
    match current with
    | none => .error "The referenced OTC offer is not stored locally."
    | some current => transitionStored current event now

def recordDealEvent (deals : Deals) (event : OtcDealEvent) (now : Int) : Except String Deals := do
  throwIf (event.dealId = []) "recordDealEvent requires an event with a dealId."
  let next ← transitionDeal (deals event.dealId) event now
  return deals.put event.dealId next

/-- A deal of `expireStoredDeals`. -/
def expireDeal (deal : DealRecord) (now : Int) : DealRecord :=
  if lapsed deal now then deal.expire now else deal

/-! ## Acceptances -/

/-- A claim that finds the offer expired stores that, and then throws. -/
inductive AcceptClaim where
  | expired (deals : Deals)
  | claimed (dealId : Text) (deals : Deals)

def DealRecord.reserve (next : DealRecord) (attemptId : Text) (now : Int) : DealRecord :=
  { next with
    acceptOperation := some ⟨.reserved, some attemptId, none, none, now⟩
    acceptTxHash := none
    acceptPending := some true
    settlementVerified := some false }

/-- `attemptId` is the random id that is drawn. -/
def claimOtcAccept (deals : Deals) (accept : Json) (attemptId : Text) (now : Int) :
    Except String AcceptClaim :=
  let event : OtcDealEvent := .accept accept
  match deals event.dealId with
  | none => .error "The referenced OTC offer is not stored locally."
  | some current =>
    if current.status = .expired then .error "This offer has expired."
    else if current.status = .offered ∧ current.pending = false ∧
        offerIsExpired current.offer now = true then
      .ok (.expired (deals.put event.dealId (current.expire now)))
    else do
      throwIf (current.status ≠ .offered ∨ current.pending = true)
        "This deal was already accepted; no second transfer was sent."
      let next ← transitionDeal (some current) event now
      throwIf (next.status ≠ .accepted ∨ next.accept = none)
        "Cannot reserve an OTC accept for this deal."
      return .claimed event.dealId (deals.put event.dealId (next.reserve attemptId now))

def DealRecord.proceed (current : DealRecord) (state : ValueOperationState)
    (transactionHash : Text) (now : Int) : ValueOperationRecord :=
  ⟨state, current.acceptOperation.bind ValueOperationRecord.attemptId, some transactionHash, none,
    now⟩

/-- The record of an acceptance that was submitted. -/
def DealRecord.submit (current : DealRecord) (transactionHash : Text) (now : Int) : DealRecord :=
  { current with
    acceptOperation := some (current.proceed .submitted transactionHash now)
    acceptTxHash := some transactionHash
    acceptPending := some true
    settlementVerified := some false
    updatedAt := now }

def markOtcAcceptSubmitted (deals : Deals) (dealId transactionHash : Text) (now : Int) :
    Except String Deals :=
  match deals dealId with
  | none => .error "No matching reserved OTC accept can be submitted."
  | some current => do
    throwIf (current.status ≠ .accepted ∨ current.accept = none ∨
        current.state ≠ some .reserved ∨ isFelt transactionHash = false)
      "No matching reserved OTC accept can be submitted."
    return deals.put dealId (current.submit transactionHash now)

def DealRecord.submittedHash (r : DealRecord) : Option Text :=
  match r.acceptOperation with
  | some operation =>
    if operation.state = .submitted ∧ truthy operation.transactionHash = true then
      operation.transactionHash
    else none
  | none => none

def DealRecord.confirm (current : DealRecord) (transactionHash : Text) (now : Int) : DealRecord :=
  { current with
    acceptOperation := some (current.proceed .confirmed transactionHash now)
    acceptTxHash := some transactionHash
    acceptPending := some false
    settlementVerified := some true
    updatedAt := now }

def confirmOtcAccept (deals : Deals) (dealId transactionHash : Text) (now : Int) :
    Except String Deals :=
  match deals dealId with
  | none => .error "No matching submitted OTC accept can be confirmed."
  | some current => do
    throwIf (current.status ≠ .accepted ∨ current.accept = none ∨
        matchesSubmitted current.submittedHash (some transactionHash) = false ∨
        ∃ hash ∈ current.acceptTxHash, feltEquals hash transactionHash = false)
      "No matching submitted OTC accept can be confirmed."
    return deals.put dealId (current.confirm transactionHash now)

/-- The record of an acceptance with an outcome. What was reverted leaves the offer open. -/
def DealRecord.settle (current : DealRecord) (transactionHash : Text) (outcome : Outcome)
    (now : Int) : DealRecord :=
  match outcome with
  | .unknown =>
    { current with
      acceptOperation := some (current.proceed .unknown transactionHash now)
      acceptPending := some true
      settlementVerified := some false
      updatedAt := now }
  | .reverted =>
    { dealId := current.dealId
      status := offeredStatus current.offer now
      offer := current.offer
      accept := none
      receipt := none
      acceptOperation := some (current.proceed .reverted transactionHash now)
      acceptTxHash := some transactionHash
      acceptPending := some false
      settlementVerified := some false
      counterpartyAcceptClaim := current.counterpartyAcceptClaim
      counterpartyReceiptClaim := current.counterpartyReceiptClaim
      updatedAt := now }

def markOtcAcceptOutcome (deals : Deals) (dealId transactionHash : Text) (outcome : Outcome)
    (now : Int) : Except String Deals :=
  match deals dealId with
  | none => .error "No matching submitted OTC accept can be reconciled."
  | some current => do
    throwIf (current.status ≠ .accepted ∨
        matchesSubmitted current.submittedHash (some transactionHash) = false)
      "No matching submitted OTC accept can be reconciled."
    return deals.put dealId (current.settle transactionHash outcome now)

/-- An acceptance that was reserved and never submitted. -/
def acceptReleasable (current : DealRecord) : Bool :=
  current.status = .accepted && current.state = some .reserved && current.pending &&
    !truthy current.acceptTxHash

def DealRecord.release (current : DealRecord) (now : Int) : DealRecord :=
  { dealId := current.dealId
    status := offeredStatus current.offer now
    offer := current.offer
    accept := none
    receipt := none
    acceptOperation := none
    acceptTxHash := none
    acceptPending := none
    settlementVerified := none
    counterpartyAcceptClaim := current.counterpartyAcceptClaim
    counterpartyReceiptClaim := current.counterpartyReceiptClaim
    updatedAt := now }

/-- An acceptance that cannot be released is left as it is. -/
def releaseOtcAccept (deals : Deals) (dealId : Text) (now : Int) : Deals :=
  match deals dealId with
  | some current =>
    if acceptReleasable current then deals.put dealId (current.release now) else deals
  | none => deals

end App20.Otc
