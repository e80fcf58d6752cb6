import App20.Coordinator.Requests

/-!
# Funding and deals

The operations on the way from a selection to a funded deal and to its end: the ticket of a browser, the
funding lease, what the chain shows, and the release lease that excludes them. An abandoned attempt closes
the funding of a request for good.
-/

namespace App20.Coordinator

open App20.Lib App20.Domain

namespace Authority

/-! ## Tickets -/

def authorizeFundingTicket (a : Authority) (input : Deal) (attemptId : Text) (terms : TicketTerms) :
    Except String (Outcome Request) := do
  let (request, target) ← a.exactRequest input "Funding ticket"
  let _ ← a.confirmedSelectionRecord request "Funding ticket"
  let attemptId ← requireAttemptId attemptId "attemptId"
  let ticketSettlementTerms ← validateTicketSettlementTerms terms
  if request.state.isTicket = true then do
    throwIf (request.ticketAttemptId ≠ some attemptId ∨ request.ticketDealId ≠ some target.dealId ∨
        request.ticketSettlementTerms ≠ some ticketSettlementTerms)
      ("Another exact browser funding attempt or settlement target owns the ticket lease.")
    return .kept request
  else do
    throwIf (request.state ≠ .selected)
      ("Funding ticket cannot be authorized while request state is " ++ request.state.text ++ ".")
    throwIf (request.abandonedFundingAttemptId.isSome = true)
      "Funding ticket is closed after exact abandonment."
    throwIf (request.ticketAttemptId.any (· ≠ attemptId) = true)
      "Another exact browser funding attempt owns the ticket lease."
    let next ← checkRequest { request with
      state := .ticketPending, ticketAttemptId := some attemptId, ticketDealId := some target.dealId
      ticketSettlementTerms := some ticketSettlementTerms }
    return .stored (a.putRequest next) next

def persistFundingTicket (a : Authority) (input : Deal) (attemptId : Text) (terms : SettlementTerms) :
    Except String (Outcome Request) := do
  let (request, target) ← a.exactRequest input "Funding ticket persistence"
  let _ ← a.confirmedSelectionRecord request "Funding ticket persistence"
  let ticketAttemptId ← requireAttemptId attemptId "attemptId"
  throwIf (request.state.isTicket = false ∨ request.ticketAttemptId ≠ some ticketAttemptId ∨
      request.ticketDealId ≠ some target.dealId)
    "Funding ticket persistence requires its exact pending or ready browser attempt."
  let settlementTerms ← validateSettlementTerms terms
  throwIf (request.ticketSettlementTerms ≠ some settlementTerms.terms)
    "Funding ticket persistence changed its exact pre-side-effect settlement terms."
  let ticketAuthorization : TicketAuthorization :=
    ⟨ticketAttemptId, target.dealId, settlementTerms.ticketAddress, settlementTerms⟩
  match request.ticketAuthorization with
  | some prior => do
    throwIf (prior ≠ ticketAuthorization)
      "Funding ticket replay changed its exact address or settlement terms."
    return .kept request
  | none => do
    let next ← checkRequest { request with
      state := .ticketReady, ticketAuthorization := some ticketAuthorization
      settlementTerms := some settlementTerms }
    return .stored (a.putRequest next) next

/-! ## Funding -/

def ticketRequired : String :=
  "Funding preparation requires a durable exact funding-ticket authorization."

/-- Why funding cannot begin in a state. -/
def fundingRefusal (request : Request) : String :=
  if request.state = .fundingUnknown then
    "Funding outcome is unknown; reconcile the exact active attempt without preparing another " ++
      "wallet submission."
  else if request.state = .funded then
    "Funding is already authoritatively recorded; another preparation is forbidden."
  else if request.state = .selected ∧ request.ticketAuthorization = none then ticketRequired
  else "Funding cannot begin while request state is " ++ request.state.text ++ "."

def prepareFunding (a : Authority) (input : Deal) (attemptId : Text) (terms : SettlementTerms) :
    Except String (Outcome Request) := do
  let (request, target) ← a.exactRequest input "Funding lease"
  let _ ← a.confirmedSelectionRecord request "Funding lease"
  let attemptId ← requireAttemptId attemptId "attemptId"
  let settlementTerms ← validateSettlementTerms terms
  throwIf (request.abandonedFundingAttemptId.isSome = true)
    ("This selected quote is durably funding-closed after abandonment; every later funding " ++
      "preparation is forbidden.")
  throwIf (request.state ≠ .ticketReady ∧ request.state ≠ .fundingPending) (fundingRefusal request)
  match request.ticketAuthorization with
  | none => .error ticketRequired
  | some ticket => do
    throwIf (request.ticketAttemptId ≠ some attemptId ∨ ticket.ticketAttemptId ≠ attemptId)
      "Funding preparation changed the ticket-authorized attempt."
    throwIf (ticket.dealId ≠ target.dealId ∨ ticket.settlementTerms ≠ settlementTerms)
      ("Funding preparation changed the ticket-authorized canonical settlement terms or address.")
    if request.state = .fundingPending then do
      throwIf (request.fundingAttemptId ≠ some attemptId)
        "Another exact funding attempt already owns the request lease."
      throwIf (request.settlementTerms ≠ some settlementTerms)
        "Funding replay changed the canonical settlement terms."
      return .kept request
    else do
      let next ← checkRequest { request with
        state := .fundingPending, fundingAttemptId := some attemptId
        settlementTerms := some settlementTerms }
      return .stored (a.putRequest next) next

def markFundingUnknown (a : Authority) (input : Deal) (attemptId : Text) :
    Except String (Outcome Request) := do
  let (request, _) ← a.exactRequest input "Funding unknown"
  let _ ← a.confirmedSelectionRecord request "Funding unknown"
  let attemptId ← requireAttemptId attemptId "attemptId"
  throwIf (request.fundingAttemptId ≠ some attemptId ∨ request.state.isFunding = false)
    "Only the exact active funding lease may become unknown."
  if request.state = .fundingUnknown then return .kept request
  else do
    let next ← checkRequest { request with state := .fundingUnknown }
    return .stored (a.putRequest next) next

def AbandonsTicket (request : Request) (dealId attemptId : Text) (terms : SettlementTerms) : Prop :=
  ∀ ticket ∈ request.ticketAuthorization, request.ticketAttemptId = some attemptId ∧
    request.ticketDealId = some dealId ∧ ticket.ticketAttemptId = attemptId ∧
    ticket.dealId = dealId ∧ ticket.ticketAddress = terms.ticketAddress ∧
    request.ticketSettlementTerms = some terms.terms ∧ ticket.settlementTerms = terms ∧
    request.settlementTerms = some terms

instance (request : Request) (dealId attemptId : Text) (terms : SettlementTerms) :
    Decidable (AbandonsTicket request dealId attemptId terms) :=
  inferInstanceAs (Decidable (∀ _ ∈ _, _))

/-- Released requests, those that are being released and selected ones take the closure as it is. -/
def closeFunding (a : Authority) (request : Request) (attemptId : Text) (terms : SettlementTerms) :
    Except String (Outcome Request) := do
  let next ← checkRequest { request with
    settlementTerms := some terms, abandonedFundingAttemptId := some attemptId }
  return .stored (a.putRequest next) next

def abandonFunding (a : Authority) (input : Deal) (attemptId : Text) (terms : SettlementTerms) :
    Except String (Outcome Request) := do
  let (request, target) ← a.exactRequest input "Funding abandonment"
  let attemptId ← requireAttemptId attemptId "attemptId"
  let settlementTerms ← validateSettlementTerms terms
  throwIf (¬ AbandonsTicket request target.dealId attemptId settlementTerms)
    ("Funding abandonment is funding-closed by a different exact durable ticket attempt, deal, " ++
      "address, or canonical settlement terms.")
  if request.state = .ticketReady then do
    let next ← checkRequest { request with
      state := .selected, abandonedFundingAttemptId := some attemptId }
    return .stored (a.putRequest next) next
  else if request.state.isReleasing = true ∨ request.state = .released then do
    throwIf (request.abandonedFundingAttemptId.any (· ≠ attemptId) = true)
      "This released request is funding-closed by a different exact abandoned attempt."
    throwIf (request.settlementTerms.any (· ≠ settlementTerms) = true)
      "Funding abandonment replay changed canonical settlement terms."
    if request.abandonedFundingAttemptId = some attemptId ∧ request.settlementTerms.isSome = true then
      return .kept request
    else a.closeFunding request attemptId settlementTerms
  else if request.state = .selected then
    match request.abandonedFundingAttemptId with
    | some abandoned => do
      throwIf (abandoned ≠ attemptId)
        "This selected quote is funding-closed by a different exact abandoned attempt."
      throwIf (request.settlementTerms ≠ some settlementTerms)
        "Funding abandonment replay changed canonical settlement terms."
      return .kept request
    | none => a.closeFunding request attemptId settlementTerms
  else do
    throwIf (request.state ≠ .fundingPending ∨ request.fundingAttemptId ≠ some attemptId)
      ("Only an exact selected pre-wallet attempt or its matching pre-submission funding lease " ++
        "may be abandoned.")
    throwIf (request.settlementTerms ≠ some settlementTerms)
      "Funding abandonment changed canonical settlement terms."
    let next ← checkRequest { request with
      fundingAttemptId := none, state := .selected, abandonedFundingAttemptId := some attemptId }
    return .stored (a.putRequest next) next

/-! ## Deals -/

def claimDeal (a : Authority) (deal : Deal) (conflict : String) : Except String Authority :=
  match a.deals.get? deal.dealId with
  | some prior => if prior = deal then .ok a else .error conflict
  | none => .ok (a.putDeal deal)

def boundElsewhere : String := "Deal identity is already bound to another request or reservation."

def observeFunded (a : Authority) (input : Deal) (attemptId : Text) :
    Except String (Outcome Deal) := do
  let (request, target) ← a.exactRequest input "Funded observation"
  let _ ← a.confirmedSelectionRecord request "Funded observation"
  throwIf (request.state.isFunding = false ∧ request.state ≠ .funded)
    "Funding was observed without an exact server funding lease."
  if request.state ≠ .funded then do
    let attemptId ← requireAttemptId attemptId "attemptId"
    throwIf (request.fundingAttemptId ≠ some attemptId)
      "Funded observation does not own the exact funding lease."
  let claimed ← a.claimDeal target boundElsewhere
  let next ← checkRequest { request with state := .funded }
  return .stored (claimed.putRequest next) target

def bindDeal (a : Authority) (input : Deal) : Except String (Outcome Deal) := do
  let (request, target) ← a.exactRequest input "Deal binding"
  throwIf (request.state ≠ .funded ∧ request.state ≠ .filled ∧ request.state ≠ .settled ∧
      request.state ≠ .expired)
    "Deal binding requires an authoritative funded or terminal observation."
  let claimed ← a.claimDeal target boundElsewhere
  if (a.deals.get? target.dealId).isSome = true then return .kept target
  else return .stored claimed target

/-- The selected record is consumed by a fill, whatever state it is in. -/
def consume (a : Authority) (key : RecordKey) (outcome : TerminalOutcome) : Authority :=
  match a.records.get? key with
  | some record => if outcome = .filled then a.putRecord { record with state := .consumed } else a
  | none => a

def terminalize (a : Authority) (input : Deal) (outcome : TerminalOutcome) :
    Except String (Outcome Request) := do
  let (request, target) ← a.exactRequest input "Terminal outcome"
  throwIf (a.deals.get? target.dealId ≠ some target)
    "Terminal target does not match the durable deal association."
  if request.state = outcome.state then return .kept request
  else do
    throwIf (outcome.follows request.state = false)
      ("Cannot terminalize " ++ request.state.text ++ " as " ++ outcome.state.text ++ ".")
    let consumed := a.consume ⟨target.binding.intentDigest, target.selection.pending⟩ outcome
    let next ← checkRequest { request with state := outcome.state }
    return .stored (consumed.putRequest next) next

/-! ## The release lease -/

/-- A request that nothing is known of, as a tombstone that is to be released. -/
def tombstone (binding : Binding) (stamp : Int) (leaseId : Text) : Request :=
  { freshRequest binding stamp stamp [] none with
    fanoutComplete := true, state := .releaseCheck, releaseLeaseId := some leaseId }

def acquireReleaseLease (a : Authority) (input : Binding) (releaseLeaseId : Text) (now : Int) :
    Except String (Outcome Request) := do
  let binding ← requestBinding input
  let leaseId ← requireAttemptId releaseLeaseId "releaseLeaseId"
  match a.requests.get? binding.intentDigest with
  | none => do
    let stamp ← requireTimestamp now "now"
    throwIf ((a.rfqOwner binding.rfqId).any (· ≠ binding.intentDigest) = true)
      "RFQ identity is already reserved by another request."
    throwIf ((a.v3Owner binding.rfqId).isSome = true)
      "RFQ identity is already reserved by a v3 request lifecycle."
    let request ← checkRequest (tombstone binding stamp leaseId)
    return .stored (a.putRequest request) request
  | some request => do
    throwIf (request.binding ≠ binding)
      "Release lease target does not match the durable request principal and RFQ."
    if request.state.isReleasing = true then do
      throwIf (request.releaseLeaseId ≠ some leaseId)
        "Another exact release lease owns this request."
      return .kept request
    else if request.state = .released then return .kept request
    else do
      throwIf (request.state ≠ .opened ∧ request.state ≠ .selected ∧ request.state ≠ .ticketReady)
        ("Request release is blocked while durable state is " ++ request.state.text ++ ".")
      throwIf (a.deals.entries.any (fun deal =>
          deal.binding.intentDigest = binding.intentDigest) = true)
        "Request release is blocked by a durable funded deal association."
      let next ← checkRequest { request with
        state := .releaseCheck, releaseLeaseId := some leaseId }
      return .stored (a.putRequest next) next

def observeFundedDuringRelease (a : Authority) (input : Binding) (releaseLeaseId : Text) :
    Except String (Outcome Request) := do
  let binding ← requestBinding input
  let leaseId ← requireAttemptId releaseLeaseId "releaseLeaseId"
  let request ← a.requestOf binding.intentDigest
    "Release-funded observation target does not match the durable request principal and RFQ."
  throwIf (request.binding ≠ binding)
    "Release-funded observation target does not match the durable request principal and RFQ."
  throwIf (request.state ≠ .releaseCheck ∨ request.releaseLeaseId ≠ some leaseId)
    "Only the exact release lease may record its escrow observation."
  match request.selection with
  | none => .error "Observed funding has no exact durable selection; request remains fenced."
  | some selection => do
    let claimed ← a.claimDeal ⟨binding, binding.rfqId, selection⟩
      "Observed deal conflicts with the durable exact selection."
    let next ← checkRequest { request with releaseLeaseId := none, state := .funded }
    return .stored (claimed.putRequest next) next

end Authority

end App20.Coordinator
