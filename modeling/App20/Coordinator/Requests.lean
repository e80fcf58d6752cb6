import App20.Coordinator.TakeValues
import App20.Lib.Table

/-!
# Requests and selections

The maps of the coordinator, and the operations that begin a request, follow its fanout, register what
makers have reserved and bind a request to one reservation. An operation checks first; what it changes it
stores in the journal as a whole. The owner of an RFQ is looked up in the requests, where the coordinator
keeps a map beside them.
-/

namespace App20.Coordinator

open App20.Lib App20.Domain

/-! ## Authority -/

structure Authority where
  records : Table Record.key
  requests : Table Request.intentDigest
  deals : Table Deal.dealId
  v3Requests : Table V3Request.rfqDigest

/-- What an operation comes to: the maps as they are, or new ones that are stored. -/
inductive Outcome (α : Type) where
  | kept (result : α)
  | stored (authority : Authority) (result : α)

def Outcome.result {α : Type} : Outcome α → α
  | .kept result => result
  | .stored _ result => result

namespace Authority

def empty : Authority := ⟨Table.empty, Table.empty, Table.empty, Table.empty⟩

/-- The maps after an operation; one that throws stores nothing. -/
def after {α : Type} (a : Authority) : Except String (Outcome α) → Authority
  | .ok (.stored next _) => next
  | _ => a

def putRequest (a : Authority) (r : Request) : Authority := { a with requests := a.requests.put r }

def putRecord (a : Authority) (r : Record) : Authority := { a with records := a.records.put r }

def putDeal (a : Authority) (d : Deal) : Authority := { a with deals := a.deals.put d }

/-- `#rfqs` -/
def rfqOwner (a : Authority) (rfqId : Text) : Option Text :=
  (a.requests.entries.find? fun r => r.binding.rfqId = rfqId).map Request.intentDigest

/-- `#v3Rfqs` -/
def v3Owner (a : Authority) (rfqId : Text) : Option Text :=
  (a.v3Requests.entries.find? fun r => r.binding.rfqId = rfqId).map V3Request.rfqDigest

def requestOf (a : Authority) (intentDigest : Text) (missing : String) : Except String Request :=
  match a.requests.get? intentDigest with
  | some request => .ok request
  | none => .error missing

/-- The records of a request that are not final. -/
def unresolved (a : Authority) (intentDigest : Text) : List Record :=
  a.records.entries.filter fun r => r.key.intentDigest = intentDigest ∧ r.state.isFinal = false

/-! ## Requests -/

/-- Another request is under way for the account, chain and market. -/
def HoldsMarket (a : Authority) (request : Request) : Prop :=
  request.market.isSome = true ∧ ∃ candidate ∈ a.requests.entries,
    candidate.intentDigest ≠ request.intentDigest ∧ candidate.state.isTerminal = false ∧
      candidate.binding.account = request.binding.account ∧
      candidate.binding.chainId = request.binding.chainId ∧ candidate.market = request.market

instance (a : Authority) (request : Request) : Decidable (a.HoldsMarket request) :=
  inferInstanceAs (Decidable (_ ∧ ∃ _ ∈ _, _))

def beginRequest (localeCompare : Text → Text → Ordering) (a : Authority) (input : RequestInput) :
    Except String (Outcome Request) := do
  let request ← beginningRequest localeCompare input
  match a.requests.get? request.intentDigest with
  | some prior => do
    throwIf (prior.state.isTerminal = true)
      "Terminal request tombstone prevents request resurrection."
    throwIf (¬ prior.Same request)
      "Request digest was reused with different principal or RFQ identity."
    return .kept prior
  | none => do
    throwIf ((a.rfqOwner request.binding.rfqId).any (· ≠ request.intentDigest) = true)
      "RFQ identity is already reserved by another request."
    throwIf ((a.v3Owner request.binding.rfqId).isSome = true)
      "RFQ identity is already reserved by a v3 request lifecycle."
    throwIf (a.HoldsMarket request)
      "An active request already holds the account, chain, and market lease."
    return .stored (a.putRequest request) request

/-! ## Fanout -/

def setPlan (plans : List MakerPlan) (makerId : Text) (state : PlanState) : List MakerPlan :=
  plans.map fun entry => if entry.makerId = makerId then { entry with state } else entry

def planOf (plans : List MakerPlan) (makerId : Text) : Option MakerPlan :=
  plans.find? fun entry => entry.makerId = makerId

def markFanoutRefused (a : Authority) (intentDigest makerId : Text) :
    Except String (Outcome Request) := do
  let digest ← requireHex32 intentDigest "intentDigest"
  let maker ← requireText makerId "makerId"
  let prior ← a.requestOf digest "Cannot update fanout for an unknown request."
  match planOf prior.makerPlans maker with
  | none => .error "Maker was not in the durable fanout plan."
  | some plan =>
    if plan.state = .responded then return .kept prior
    else do
      let next ← checkRequest { prior with makerPlans := setPlan prior.makerPlans maker .refused }
      return .stored (a.putRequest next) next

def completeRequestFanout (a : Authority) (intentDigest : Text) :
    Except String (Outcome Request) := do
  let digest ← requireHex32 intentDigest "intentDigest"
  let prior ← a.requestOf digest "Cannot complete fanout for an unknown request."
  throwIf (prior.makerPlans.any (fun plan => plan.state = .planned) = true)
    "Cannot complete fanout while a maker outcome is ambiguous."
  let allInvitedMakersRefused := prior.makerPlans ≠ [] ∧
    prior.makerPlans.all (fun plan => plan.state = .refused) = true
  let state := if a.unresolved digest = [] ∧
    (prior.state = .releasePending ∨ allInvitedMakersRefused) then .released else prior.state
  let next ← checkRequest { prior with fanoutComplete := true, state }
  return .stored (a.putRequest next) next

/-! ## Registration -/

/-- The first write of `register`: the maker has responded. -/
def registerPlan (a : Authority) (record : Record) : Except String (Outcome Request) := do
  let request ← a.requestOf record.key.intentDigest
    "Reservation registration requires a durable request journal entry."
  let planned := planOf request.makerPlans record.key.pending.makerId
  throwIf (request.makerPlans ≠ [] ∧ planned = none)
    "Reservation maker was not in the durable fanout plan."
  if planned.map MakerPlan.state = some .responded then return .kept request
  else do
    let next ← checkRequest { request with
      makerPlans := setPlan request.makerPlans record.key.pending.makerId .responded }
    return .stored (a.putRequest next) next

/-- A record that is registered, and whether it is to be released behind its request. -/
structure Registration where
  record : Record
  release : Bool

/-- The second write of `register`: the reservation itself. -/
def registerRecord (a : Authority) (request : Request) (record : Record) :
    Except String (Outcome Registration) :=
  match a.records.get? record.key with
  | some prior => do
    throwIf (prior.expiresAt ≠ record.expiresAt)
      "Reservation attempt was reused with a different expiry."
    return .kept ⟨prior, false⟩
  | none =>
    if request.state ≠ .opened then
      let pending := { record with state := .releasePending }
      return .stored (a.putRecord pending) ⟨pending, true⟩
    else return .stored (a.putRecord record) ⟨record, false⟩

/-! ## Selection -/

def beginSelection (a : Authority) (intentDigest : Text) (input : PendingSelection) :
    Except String (Outcome Request) := do
  let intentDigest ← requireHex32 intentDigest "intentDigest"
  let pendingSelection ← validatePendingSelection input
  throwIf ((a.records.get? ⟨intentDigest, pendingSelection⟩).any (·.state.isHeld) = false)
    "Only a known durable reservation can begin selection."
  let request ← a.requestOf intentDigest "Unknown request cannot begin selection."
  match request.selection with
  | some selection => do
    throwIf (selection.pending ≠ pendingSelection)
      "Request is already bound to another exact selection."
    return .kept request
  | none =>
    if request.state = .selectionPending then do
      throwIf (request.pendingSelection ≠ some pendingSelection)
        "Another exact reservation already owns the durable selection lease."
      return .kept request
    else do
      throwIf (request.state ≠ .opened) "Request state cannot begin selection."
      let next ← checkRequest { request with
        state := .selectionPending, pendingSelection := some pendingSelection }
      return .stored (a.putRequest next) next

def confirmedSelectionRecord (a : Authority) (request : Request) (action : String) :
    Except String Record := do
  match request.selection with
  | none => .error (action ++ " requires a durable confirmed selection.")
  | some selection =>
    match a.records.get? ⟨request.intentDigest, selection.pending⟩ with
    | none => .error (action ++ " requires the exact durable winner record to remain selected and " ++
        "not released.")
    | some record => do
      throwIf (record.state ≠ .selected ∨ ¬ selection.Matches record)
        (action ++ " requires the exact durable winner record to remain selected and not released.")
      return record

def confirmSelection (a : Authority) (intentDigest : Text) (input : Selection) :
    Except String (Outcome Record) := do
  let intentDigest ← requireHex32 intentDigest "intentDigest"
  let selection ← validateSelection input
  match a.records.get? ⟨intentDigest, selection.pending⟩ with
  | none => .error "Only a known reserved attempt can be selected."
  | some prior => do
    throwIf (prior.state.isHeld = false) "Only a known reserved attempt can be selected."
    let request ← a.requestOf intentDigest "Unknown request cannot confirm selection."
    match request.selection with
    | some held => do
      throwIf (held ≠ selection) "Request is already bound to another exact selection."
      return .kept (← a.confirmedSelectionRecord request "Selection replay")
    | none => do
      throwIf (request.state ≠ .selectionPending ∨ request.pendingSelection ≠ some selection.pending)
        "Maker acknowledgement does not own the exact durable pending selection."
      let nextRecord := { prior with
        state := .selected, authorization := some (selection.fence, selection.quoteDigest) }
      let nextRequest ← checkRequest { request with
        pendingSelection := none, state := .selected, selection := some selection }
      return .stored ((a.putRecord nextRecord).putRequest nextRequest) nextRecord

def exactRequest (a : Authority) (input : Deal) (action : String) :
    Except String (Request × Deal) := do
  let target ← exactTarget input
  throwIf (target.dealId ≠ target.binding.rfqId)
    "Deal identity is not the RFQ identity bound before fanout."
  match a.requests.get? target.binding.intentDigest with
  | none => .error (action ++ " target does not match the durable request principal and RFQ.")
  | some request => do
    throwIf (request.binding ≠ target.binding)
      (action ++ " target does not match the durable request principal and RFQ.")
    throwIf (request.selection ≠ some target.selection)
      (action ++ " target does not match the exact durable selection.")
    return (request, target)

def quarantineAuthority (a : Authority) (input : Deal) (authorityRevision : Int)
    (authorityReason : Text) : Except String (Outcome Request) := do
  let (request, _) ← a.exactRequest input "Authority quarantine"
  let revision ← requireTimestamp authorityRevision "authorityRevision"
  let reason ← requireText authorityReason "authorityReason"
  let store : Except String (Outcome Request) := do
    let next ← checkRequest { request with
      state := .authorityQuarantined, authority := some ⟨revision, reason⟩ }
    return .stored (a.putRequest next) next
  if request.state = .authorityQuarantined then
    if request.authority = some ⟨revision, reason⟩ then return .kept request
    else do
      throwIf (request.authority.any (fun prior => revision ≤ prior.revision) = true)
        "Authority quarantine revision must increase."
      store
  else do
    throwIf (request.state ≠ .filled ∧ request.state ≠ .settled ∧ request.state ≠ .expired ∧
        request.state ≠ .refunded)
      "Only an observed terminal request can enter authority quarantine."
    store

end Authority

end App20.Coordinator
