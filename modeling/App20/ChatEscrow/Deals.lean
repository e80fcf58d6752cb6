import App20.Domain.BigInt
import App20.Otc.Payloads

/-!
# Escrow deals of a chat

The records of escrow deals in the storage of one mailbox. A deal is announced by a message, and
each of its four operations is reserved before the wallet opens. What the counterparty says of an
operation is kept as a hint; the status of the deal comes from the chain.
-/

namespace App20.ChatEscrow

open App20.Lib App20.Domain
open App20.Otc (TokenRef Leg feltEquals isPositiveBaseUnitAmount sanitizeUntrustedText
  normalizeTokenRef hasConsistentTokenMetadata maxTokenDecimals maxSymbolLength)
open App20.Reservation (isObject maxSafeInteger)

/-! ## Payloads -/

def starkFieldPrime : Int := 2 ^ 251 + 17 * 2 ^ 192 + 1
def u128Max : Int := 2 ^ 128 - 1
def maxNoteLength : Nat := 512

def feltText (s : Text) (allowZero : Bool) : Option Text :=
  match parseBigInt s with
  | none => none
  | some n =>
    if n < 0 ∨ starkFieldPrime ≤ n ∨ (allowZero = false ∧ n = 0) then none else some (hex n.toNat)

def parseFelt (value : Option Json) (allowZero : Bool) : Option Text :=
  match value with
  | some (.string s) => feltText s allowZero
  | _ => none

def addressText (s : Text) (allowZero : Bool) : Option Text :=
  (canonicalizeStarknetFelt s).filter fun address => allowZero || bigInt address ≠ 0

def parseAddress (value : Option Json) (allowZero : Bool) : Option Text :=
  match value with
  | some (.string s) => addressText s allowZero
  | _ => none

def parseTokenRef (value : Option Json) : Option TokenRef := do
  let value ← value
  guard (isObject value = true)
  let address ← parseAddress (value.get? "address") false
  match value.get? "symbol", value.get? "decimals" with
  | some (.string text), some (.number decimals) =>
    let symbol := trim (sanitizeUntrustedText text)
    guard (symbol ≠ [] ∧ (codeUnits text).length ≤ maxSymbolLength ∧
      (codeUnits symbol).length ≤ maxSymbolLength ∧ 0 ≤ decimals ∧ decimals ≤ maxTokenDecimals)
    let token : TokenRef := ⟨symbol, address, decimals⟩
    guard (hasConsistentTokenMetadata token = true)
    normalizeTokenRef token
  | _, _ => none

def parseLeg (value : Option Json) : Option Leg := do
  let value ← value
  guard (isObject value = true)
  let token ← parseTokenRef (value.get? "token")
  match value.get? "amount" with
  | some (.string amount) =>
    guard (isPositiveBaseUnitAmount amount = true ∧ decimalValue amount ≤ u128Max)
    return ⟨token, amount⟩
  | _ => none

def parseDeadline (value : Option Json) : Option Int :=
  match value with
  | some (.number n) => if 0 < n ∧ n ≤ maxSafeInteger then some n else none
  | _ => none

/-- `none` is a note that is not allowed, `some none` one that is not there. -/
def parseNote (value : Option Json) : Option (Option Text) :=
  match value with
  | none => some none
  | some (.string s) =>
    if maxNoteLength < (codeUnits s).length then none else some (some (sanitizeUntrustedText s))
  | some _ => none

structure EscrowFundPayload where
  dealId : Text
  escrowAddress : Text
  maker : Text
  legA : Leg
  legB : Leg
  deadline : Int
  /-- The claim-ticket contract; announcements of the first version have none. -/
  ticket : Option Text
  claimPubkey : Text
  note : Option Text

def claimKeys (ticket claimPubkey : Option Text) : Option (Option Text × Text) :=
  match ticket, claimPubkey with
  | none, none => none
  | some ticket, none => some (some ticket, ticket)
  | some ticket, some key =>
    if feltEquals ticket key = true then some (some ticket, ticket) else none
  | none, some key => some (none, key)

def parseEscrowFundPayload (value : Json) : Option EscrowFundPayload := do
  guard (isObject value = true)
  let dealId ← parseFelt (value.get? "dealId") false
  let escrowAddress ← parseAddress (value.get? "escrowAddress") false
  let maker ← parseAddress (value.get? "maker") false
  let legA ← parseLeg (value.get? "legA")
  let legB ← parseLeg (value.get? "legB")
  let deadline ← parseDeadline (value.get? "deadline")
  let keys ← claimKeys (parseAddress (value.get? "ticket") false)
    (parseFelt (value.get? "claimPubkey") false)
  let note ← parseNote (value.get? "note")
  guard (feltEquals legA.token.address legB.token.address = false)
  return ⟨dealId, escrowAddress, maker, legA, legB, deadline, keys.1, keys.2, note⟩

def parseEscrowUpdatePayload (value : Json) : Option (Text × Text) := do
  guard (isObject value = true)
  let dealId ← parseFelt (value.get? "dealId") false
  let escrowAddress ← parseAddress (value.get? "escrowAddress") false
  return (dealId, escrowAddress)

/-! ## Records -/

inductive EscrowContractStatus where
  | empty | funded | filled | settled | timedOut
  deriving DecidableEq

structure EscrowContractDeal where
  legAToken : Text
  legAAmount : Text
  legBToken : Text
  legBTerms : Text
  legBAmount : Text
  deadline : Int
  ticket : Text
  claimPubkey : Text
  status : EscrowContractStatus

def contractDealMatchesFund (deal : EscrowContractDeal) (fund : EscrowFundPayload) : Bool :=
  feltEquals deal.legAToken fund.legA.token.address && deal.legAAmount = fund.legA.amount &&
    feltEquals deal.legBToken fund.legB.token.address && deal.legBTerms = fund.legB.amount &&
    deal.deadline = fund.deadline && match fund.ticket with
    | some ticket => feltEquals deal.ticket ticket
    | none => feltEquals deal.claimPubkey fund.claimPubkey

inductive EscrowOperation where
  | fund | fill | claim | timeout
  deriving DecidableEq

def EscrowOperation.name : EscrowOperation → String
  | .fund => "fund"
  | .fill => "fill"
  | .claim => "claim"
  | .timeout => "timeout"

inductive EscrowOperationState where
  | reserved | submitted | confirmed | reverted | unknown
  deriving DecidableEq

structure EscrowOperationRecord where
  state : EscrowOperationState
  transactionHash : Option Text
  updatedAt : Int
  deriving DecidableEq

structure EscrowDealRecord where
  dealId : Text
  fund : EscrowFundPayload
  chainStatus : Option EscrowContractStatus
  chainDeal : Option EscrowContractDeal
  operations : EscrowOperation → Option EscrowOperationRecord
  counterpartyClaims : EscrowOperation → Bool
  updatedAt : Int

/-- `state.deals`, by deal id. -/
abbrev EscrowDeals := Text → Option EscrowDealRecord

def EscrowDeals.put (deals : EscrowDeals) (dealId : Text) (record : EscrowDealRecord) :
    EscrowDeals := Function.update deals dealId (some record)

def EscrowDealRecord.withOperation (r : EscrowDealRecord) (operation : EscrowOperation)
    (o : Option EscrowOperationRecord) (now : Int) : EscrowDealRecord :=
  { r with operations := Function.update r.operations operation o, updatedAt := now }

def EscrowDeals.find (deals : EscrowDeals) (dealId : Text) : Option EscrowDealRecord :=
  (feltText dealId false).bind deals

/-! ## Announcements -/

/-- What is compared when a deal is announced again. -/
def sameAnnouncement (prior fund : EscrowFundPayload) : Bool :=
  feltEquals prior.escrowAddress fund.escrowAddress && feltEquals prior.maker fund.maker &&
    feltEquals prior.legA.token.address fund.legA.token.address &&
    prior.legA.token.symbol = fund.legA.token.symbol &&
    prior.legA.token.decimals = fund.legA.token.decimals && prior.legA.amount = fund.legA.amount &&
    feltEquals prior.legB.token.address fund.legB.token.address &&
    prior.legB.token.symbol = fund.legB.token.symbol &&
    prior.legB.token.decimals = fund.legB.token.decimals && prior.legB.amount = fund.legB.amount &&
    prior.deadline = fund.deadline && prior.ticket = fund.ticket &&
    prior.claimPubkey = fund.claimPubkey && prior.note = fund.note

def announced (fund : EscrowFundPayload) (now : Int) : EscrowDealRecord where
  dealId := fund.dealId
  fund := fund
  chainStatus := none
  chainDeal := none
  operations := fun _ => none
  counterpartyClaims := fun _ => false
  updatedAt := now

def recordEscrowFund (deals : EscrowDeals) (payload : Json) (now : Int) :
    Except String EscrowDeals :=
  match parseEscrowFundPayload payload with
  | none => .error "Invalid escrow Fund envelope."
  | some fund =>
    match deals fund.dealId with
    | some existing => do
      throwIf (sameAnnouncement existing.fund fund = false)
        "Cannot replace an existing escrow deal announcement."
      return deals
    | none => .ok (deals.put fund.dealId (announced fund now))

/-- The claims of a counterparty are about a fill, a claim or a timeout. -/
inductive UpdateOperation where
  | fill | claim | timeout

def UpdateOperation.operation : UpdateOperation → EscrowOperation
  | .fill => .fill
  | .claim => .claim
  | .timeout => .timeout

def recordEscrowUpdateClaim (deals : EscrowDeals) (operation : UpdateOperation) (payload : Json)
    (now : Int) : Except String EscrowDeals :=
  match parseEscrowUpdatePayload payload with
  | none => .error "Invalid escrow update envelope."
  | some (dealId, escrowAddress) =>
    match deals dealId with
    | none => .error "The referenced escrow deal is not stored locally."
    | some current => do
      throwIf (feltEquals current.fund.escrowAddress escrowAddress = false)
        "The referenced escrow deal is not stored locally."
      return deals.put dealId { current with
        counterpartyClaims := Function.update current.counterpartyClaims operation.operation true
        updatedAt := now }

/-! ## Operations -/

def assertStatusAllows (r : EscrowDealRecord) (operation : EscrowOperation) (now : Int) :
    Except String Unit :=
  match operation with
  | .fund =>
    throwIf (r.chainStatus.any (fun status => status ≠ .empty) = true)
      "This escrow deal is already funded."
  | .fill => do
    throwIf (r.chainStatus ≠ some .funded) "Only a chain-verified funded escrow can be filled."
    throwIf (r.fund.deadline ≤ now) "This escrow fill deadline has passed."
  | .claim =>
    throwIf (r.chainStatus ≠ some .filled) "Only a chain-verified filled escrow can be claimed."
  | .timeout => do
    throwIf (r.chainStatus ≠ some .funded) "Only an unfilled funded escrow can time out."
    throwIf (now < r.fund.deadline) "This escrow deal has not reached its timeout deadline."

def assertOperationAllowed (r : EscrowDealRecord) (operation : EscrowOperation) (now : Int) :
    Except String Unit := do
  throwIf ((r.operations operation).any (fun prior => prior.state ≠ .reverted) = true)
    s!"This escrow {operation.name} was already reserved; no second transfer was sent."
  assertStatusAllows r operation now

def claimEscrowOperation (deals : EscrowDeals) (dealId : Text) (operation : EscrowOperation)
    (now : Int) : Except String EscrowDeals :=
  match deals.find dealId with
  | none => .error "The referenced escrow deal is not stored locally."
  | some current => do
    assertOperationAllowed current operation now
    return deals.put current.dealId
      (current.withOperation operation (some ⟨.reserved, none, now⟩) now)

def isReserved (r : EscrowDealRecord) (operation : EscrowOperation) : Bool :=
  (r.operations operation).any fun o => o.state = .reserved

def markEscrowOperationSubmitted (deals : EscrowDeals) (dealId : Text)
    (operation : EscrowOperation) (transactionHash : Text) (now : Int) :
    Except String EscrowDeals :=
  match deals.find dealId, feltText transactionHash false with
  | some current, some hash => do
    throwIf (isReserved current operation = false)
      "No matching escrow operation reservation can be submitted."
    return deals.put current.dealId
      (current.withOperation operation (some ⟨.submitted, some hash, now⟩) now)
  | _, _ => .error "No matching escrow operation reservation can be submitted."

def matchesSubmitted (r : EscrowDealRecord) (operation : EscrowOperation) (hash : Text) : Bool :=
  (r.operations operation).any fun o =>
    o.state = .submitted && o.transactionHash.any fun submitted =>
      submitted ≠ [] && feltEquals submitted hash

/-- The record of a submitted operation goes on to a state, under the hash it was submitted with. -/
def proceed (deals : EscrowDeals) (dealId : Text) (operation : EscrowOperation)
    (transactionHash : Text) (state : EscrowOperationState) (e : String) (now : Int) :
    Except String EscrowDeals :=
  match deals.find dealId, feltText transactionHash false with
  | some current, some hash => do
    throwIf (matchesSubmitted current operation hash = false) e
    return deals.put current.dealId
      (current.withOperation operation (some ⟨state, some hash, now⟩) now)
  | _, _ => .error e

def confirmEscrowOperation (deals : EscrowDeals) (dealId : Text) (operation : EscrowOperation)
    (transactionHash : Text) (now : Int) : Except String EscrowDeals :=
  proceed deals dealId operation transactionHash .confirmed
    "No matching submitted escrow operation can be confirmed." now

inductive EscrowOutcome where
  | reverted | unknown

def EscrowOutcome.state : EscrowOutcome → EscrowOperationState
  | .reverted => .reverted
  | .unknown => .unknown

def markEscrowOperationOutcome (deals : EscrowDeals) (dealId : Text) (operation : EscrowOperation)
    (transactionHash : Text) (outcome : EscrowOutcome) (now : Int) : Except String EscrowDeals :=
  proceed deals dealId operation transactionHash outcome.state
    "No matching submitted escrow operation can be reconciled." now

def releaseEscrowOperation (deals : EscrowDeals) (dealId : Text) (operation : EscrowOperation)
    (now : Int) : EscrowDeals :=
  match deals.find dealId with
  | none => deals
  | some current =>
    if isReserved current operation = true then
      deals.put current.dealId (current.withOperation operation none now)
    else deals

def recordEscrowChainDeal (deals : EscrowDeals) (dealId : Text) (chainDeal : EscrowContractDeal)
    (now : Int) : Except String EscrowDeals :=
  match deals.find dealId with
  | none => .error "The referenced escrow deal is not stored locally."
  | some current => do
    throwIf (chainDeal.status ≠ .empty ∧ contractDealMatchesFund chainDeal current.fund = false)
      "On-chain escrow terms do not match the encrypted announcement."
    return deals.put current.dealId { current with
      chainStatus := some chainDeal.status
      chainDeal := some chainDeal
      updatedAt := now }

end App20.ChatEscrow
