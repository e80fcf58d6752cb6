import App20.Domain.Decimal
import App20.Lib.Sorting
import App20.Lib.Utf8
import App20.Reservation.Codec

/-!
# Values of the reservation coordinator

What the localnet coordinator checks of its inputs, and the requests, maker reservations and deals that
its journal holds. Inputs are texts and whole numbers; what is of another type is refused as a text is
that fails the check. Chain ids and markets are ASCII texts, as the server sends them.

* `checkRequest`: a stored request has what its state needs.
-/

namespace App20.Coordinator

open App20.Lib App20.Domain
open App20.Reservation (maxSafeInteger)

/-! ## Checks -/

def maxAttemptIdBytes : Nat := 128
def maxTextBytes : Nat := 1024

def byteLength (s : Text) : Nat := (encodeUtf8 s).length

def requireHex32 (value : Text) (label : String) : Except String Text :=
  if isHex32 value then .ok value
  else .error (label ++ " must be a canonical lowercase 32-byte hex value.")

/-- `/^0x[0-9a-f]{1,64}$/` -/
def isLowerFelt (s : Text) : Bool :=
  match s with
  | '0' :: 'x' :: ds => decide (1 ≤ ds.length ∧ ds.length ≤ 64) && ds.all isLowerHexDigit
  | _ => false

def requireFelt (value : Text) (label : String) : Except String Text :=
  if isLowerFelt value then .ok (hex (ofDigits 16 (value.drop 2)))
  else .error (label ++ " must be a lowercase felt.")

def boundedText (maxBytes : Nat) (value : Text) (label : String) : Except String Text :=
  if trim value = [] ∨ Char.ofNat 0 ∈ value ∨ maxBytes < byteLength (trim value) then
    .error (label ++ " is required, bounded, and must not contain a NUL byte.")
  else .ok (trim value)

def requireText : Text → String → Except String Text := boundedText maxTextBytes

/-- `requireAttemptId`, and `requireText` under the label of an attempt or a lease. -/
def requireAttemptId : Text → String → Except String Text := boundedText maxAttemptIdBytes

/-- `/^[1-9][0-9]*$/` -/
def isPositiveDecimal (s : Text) : Bool := isDecimal s && decide (s ≠ ['0'])

def requireFence (value : Text) : Except String Text := do
  let fence ← requireText value "fence"
  throwIf (isPositiveDecimal fence = false) "fence must be a positive canonical decimal string."
  return fence

def requireTimestamp (value : Int) (label : String) : Except String Int :=
  if value ≤ 0 ∨ maxSafeInteger < value then
    .error (label ++ " must be a positive timestamp.")
  else .ok value

def requireAmount (value : Text) (label : String) : Except String Text :=
  if isPositiveDecimal value then .ok value
  else .error (label ++ " must be a positive canonical decimal amount.")

/-! ## Terms and tickets -/

structure TicketTerms where
  sellToken : Text
  sellAmount : Text
  buyToken : Text
  buyAmount : Text
  deadline : Int
  deriving DecidableEq

structure SettlementTerms where
  terms : TicketTerms
  ticketAddress : Text
  deriving DecidableEq

structure TicketAuthorization where
  ticketAttemptId : Text
  dealId : Text
  ticketAddress : Text
  settlementTerms : SettlementTerms
  deriving DecidableEq

def validateTicketSettlementTerms (value : TicketTerms) : Except String TicketTerms := do
  let sellToken ← requireFelt value.sellToken "sellToken"
  let sellAmount ← requireAmount value.sellAmount "sellAmount"
  let buyToken ← requireFelt value.buyToken "buyToken"
  let buyAmount ← requireAmount value.buyAmount "buyAmount"
  let deadline ← requireTimestamp value.deadline "deadline"
  return ⟨sellToken, sellAmount, buyToken, buyAmount, deadline⟩

def validateSettlementTerms (value : SettlementTerms) : Except String SettlementTerms := do
  let terms ← validateTicketSettlementTerms value.terms
  let ticketAddress ← requireFelt value.ticketAddress "ticketAddress"
  return ⟨terms, ticketAddress⟩

/-! ## Maker plans -/

inductive PlanState where
  | planned | responded | refused | expired
  deriving DecidableEq

structure MakerPlan where
  makerId : Text
  state : PlanState
  deriving DecidableEq

/-- `normalizeMakerPlans` of makers that are invited. -/
def plannedMakers (localeCompare : Text → Text → Ordering) (makerIds : List Text) :
    Except String (List MakerPlan) := do
  let makerIds ← makerIds.mapM fun makerId => requireText makerId "makerId"
  throwIf (¬ makerIds.Nodup) "Coordinator maker plans contain a duplicate maker."
  return sort (fun a b => localeCompare a.makerId b.makerId) (makerIds.map fun id => ⟨id, .planned⟩)

/-! ## Selections and records -/

structure PendingSelection where
  reservationId : Text
  makerId : Text
  deriving DecidableEq

structure Selection where
  pending : PendingSelection
  fence : Text
  quoteDigest : Text
  deriving DecidableEq

def validatePendingSelection (value : PendingSelection) : Except String PendingSelection := do
  let reservationId ← requireHex32 value.reservationId "reservationId"
  let makerId ← requireText value.makerId "makerId"
  return ⟨reservationId, makerId⟩

def validateSelection (value : Selection) : Except String Selection := do
  let pending ← validatePendingSelection value.pending
  let fence ← requireFence value.fence
  let quoteDigest ← requireHex32 value.quoteDigest "quoteDigest"
  return ⟨pending, fence, quoteDigest⟩

inductive RecordState where
  | reserved | selected | releasePending | released | expired | consumed
  deriving DecidableEq

/-- `["released", "expired", "consumed"]` -/
def RecordState.isFinal : RecordState → Bool
  | .released | .expired | .consumed => true
  | _ => false

/-- `["reserved", "selected"]` -/
def RecordState.isHeld : RecordState → Bool
  | .reserved | .selected => true
  | _ => false

/-- What `keyOf` joins. -/
structure RecordKey where
  intentDigest : Text
  pending : PendingSelection
  deriving DecidableEq

/-- A reservation of a maker. A fence and the digest of a quote are there together. -/
structure Record where
  key : RecordKey
  expiresAt : Int
  state : RecordState
  authorization : Option (Text × Text)
  deriving DecidableEq

/-- `selectionMatches` of a record. -/
def Selection.Matches (selection : Selection) (record : Record) : Prop :=
  selection.pending = record.key.pending ∧
    record.authorization = some (selection.fence, selection.quoteDigest)

instance (selection : Selection) (record : Record) : Decidable (selection.Matches record) :=
  inferInstanceAs (Decidable (_ ∧ _))

/-- A reservation as its maker reports it. -/
structure RecordInput where
  key : RecordKey
  expiresAt : Int

def validateRecord (input : RecordInput) : Except String Record := do
  let intentDigest ← requireHex32 input.key.intentDigest "intentDigest"
  let pending ← validatePendingSelection input.key.pending
  let expiresAt ← requireTimestamp input.expiresAt "expiresAt"
  return ⟨⟨intentDigest, pending⟩, expiresAt, .reserved, none⟩

/-! ## Requests -/

inductive RequestState where
  | opened | selectionPending | selected | ticketPending | ticketReady | releaseCheck | releasePending
  | fundingPending | fundingUnknown | funded | filled | settled | expired | refunded | released
  | authorityQuarantined
  deriving DecidableEq

/-- `REQUEST_STATES` -/
def RequestState.text : RequestState → String
  | .opened => "open"
  | .selectionPending => "selection-pending"
  | .selected => "selected"
  | .ticketPending => "ticket-pending"
  | .ticketReady => "ticket-ready"
  | .releaseCheck => "release-check"
  | .releasePending => "release-pending"
  | .fundingPending => "funding-pending"
  | .fundingUnknown => "funding-unknown"
  | .funded => "funded"
  | .filled => "filled"
  | .settled => "settled"
  | .expired => "expired"
  | .refunded => "refunded"
  | .released => "released"
  | .authorityQuarantined => "authority-quarantined"

/-- `TERMINAL_REQUEST_STATES` -/
def RequestState.isTerminal : RequestState → Bool
  | .filled | .settled | .expired | .refunded | .released => true
  | _ => false

def RequestState.needsSelection : RequestState → Bool
  | .selected | .ticketPending | .ticketReady | .fundingPending | .fundingUnknown | .funded | .filled
  | .settled | .expired | .refunded | .authorityQuarantined => true
  | _ => false

/-- `["release-check", "release-pending"]` -/
def RequestState.isReleasing : RequestState → Bool
  | .releaseCheck | .releasePending => true
  | _ => false

/-- `["ticket-pending", "ticket-ready"]` -/
def RequestState.isTicket : RequestState → Bool
  | .ticketPending | .ticketReady => true
  | _ => false

/-- `["funding-pending", "funding-unknown"]` -/
def RequestState.isFunding : RequestState → Bool
  | .fundingPending | .fundingUnknown => true
  | _ => false

/-- The principal and the RFQ of a request. -/
structure Binding where
  intentDigest : Text
  rfqId : Text
  account : Text
  chainId : Text
  deriving DecidableEq

/-- `authorityRevision` and `authorityReason`, which are there together. -/
structure AuthorityNotice where
  revision : Int
  reason : Text
  deriving DecidableEq

structure Request where
  binding : Binding
  createdAt : Int
  expiresAt : Int
  fanoutComplete : Bool
  makerPlans : List MakerPlan
  market : Option Text
  pendingSelection : Option PendingSelection
  selection : Option Selection
  ticketAttemptId : Option Text
  ticketDealId : Option Text
  ticketSettlementTerms : Option TicketTerms
  ticketAuthorization : Option TicketAuthorization
  fundingAttemptId : Option Text
  releaseLeaseId : Option Text
  abandonedFundingAttemptId : Option Text
  authority : Option AuthorityNotice
  settlementTerms : Option SettlementTerms
  state : RequestState
  deriving DecidableEq

def Request.intentDigest (r : Request) : Text := r.binding.intentDigest

/-- The ticket of a request is that of its attempt, its deal and its terms. -/
def TicketAuthorization.Agrees (t : TicketAuthorization) (r : Request) : Prop :=
  r.ticketAttemptId = some t.ticketAttemptId ∧ t.dealId = r.binding.rfqId ∧
    (∀ dealId ∈ r.ticketDealId, t.dealId = dealId) ∧
    ∀ terms ∈ r.ticketSettlementTerms, t.settlementTerms = ⟨terms, t.ticketAddress⟩

instance (t : TicketAuthorization) (r : Request) : Decidable (t.Agrees r) :=
  inferInstanceAs (Decidable (_ ∧ _ ∧ _ ∧ _))

/-- The checks of `validateRequest` between the fields of a request. The fields of a stored request are
in their normal form, and are not normalized again here. -/
def checkRequest (r : Request) : Except String Request := do
  throwIf (r.state = .selectionPending ∧
      (r.pendingSelection.isNone = true ∨ r.selection.isSome = true))
    "Coordinator selection-pending state requires only its exact pending selection."
  throwIf (r.state ≠ .selectionPending ∧ r.pendingSelection.isSome = true)
    "Coordinator pending selection is forbidden outside selection-pending state."
  throwIf (r.state.needsSelection = true ∧ r.selection.isNone = true)
    "Coordinator request state requires an exact selection."
  throwIf (r.state.isTicket = true ∧ (r.ticketAttemptId.isNone = true ∨
      r.ticketDealId.isNone = true ∨ r.ticketSettlementTerms.isNone = true))
    "Coordinator ticket state requires the complete exact pre-side-effect journal."
  throwIf (r.state = .ticketReady ∧ r.ticketAuthorization.isNone = true)
    "Coordinator ticket-ready state requires the finalized exact ticket address."
  throwIf (r.state.isFunding = true ∧ r.fundingAttemptId.isNone = true)
    "Coordinator funding state requires an exact attempt lease."
  throwIf (r.state.isReleasing = true ∧ r.releaseLeaseId.isNone = true)
    "Coordinator release state requires an exact release lease."
  throwIf (¬ ∀ t ∈ r.ticketAuthorization, t.Agrees r)
    ("Coordinator ticket authorization contradicts its request identity or settlement terms.")
  return r

def requestBinding (input : Binding) : Except String Binding := do
  let intentDigest ← requireHex32 input.intentDigest "intentDigest"
  let rfqId ← requireFelt input.rfqId "rfqId"
  let account ← requireFelt input.account "account"
  let chainId ← requireText input.chainId "chainId"
  return ⟨intentDigest, rfqId, account, toLowerCase chainId⟩

/-- What a request begins with; its callers give no other fields. -/
structure RequestInput where
  binding : Binding
  createdAt : Int
  expiresAt : Int
  market : Option Text
  makerIds : List Text

/-- A request without anything that comes of later steps. -/
def freshRequest (binding : Binding) (createdAt expiresAt : Int) (makerPlans : List MakerPlan)
    (market : Option Text) : Request where
  binding := binding
  createdAt := createdAt
  expiresAt := expiresAt
  fanoutComplete := false
  makerPlans := makerPlans
  market := market
  pendingSelection := none
  selection := none
  ticketAttemptId := none
  ticketDealId := none
  ticketSettlementTerms := none
  ticketAuthorization := none
  fundingAttemptId := none
  releaseLeaseId := none
  abandonedFundingAttemptId := none
  authority := none
  settlementTerms := none
  state := .opened

/-- `validateRequest` of a request that begins. -/
def beginningRequest (localeCompare : Text → Text → Ordering) (input : RequestInput) :
    Except String Request := do
  let binding ← requestBinding input.binding
  let createdAt ← requireTimestamp input.createdAt "createdAt"
  let expiresAt ← requireTimestamp input.expiresAt "expiresAt"
  let makerPlans ← plannedMakers localeCompare input.makerIds
  let market ← input.market.mapM fun market => requireText market "market"
  checkRequest (freshRequest binding createdAt expiresAt makerPlans (market.map toLowerCase))

/-- `sameRequest` -/
def Request.Same (left right : Request) : Prop :=
  left.binding = right.binding ∧ left.createdAt = right.createdAt ∧
    left.expiresAt = right.expiresAt ∧ left.market = right.market ∧
    left.makerPlans = right.makerPlans

instance (left right : Request) : Decidable (left.Same right) :=
  inferInstanceAs (Decidable (_ ∧ _ ∧ _ ∧ _ ∧ _))

/-! ## Deals -/

/-- The target of an operation, and a deal as it is stored. -/
structure Deal where
  binding : Binding
  dealId : Text
  selection : Selection
  deriving DecidableEq

def exactTarget (input : Deal) : Except String Deal := do
  let binding ← requestBinding input.binding
  let dealId ← requireFelt input.dealId "dealId"
  let selection ← validateSelection input.selection
  return ⟨binding, dealId, selection⟩

/-! ## Ends of a deal -/

inductive TerminalOutcome where
  | filled | settled | expired | refunded
  deriving DecidableEq

def TerminalOutcome.state : TerminalOutcome → RequestState
  | .filled => .filled
  | .settled => .settled
  | .expired => .expired
  | .refunded => .refunded

def TerminalOutcome.follows (outcome : TerminalOutcome) (state : RequestState) : Bool :=
  match state, outcome with
  | .funded, .filled | .funded, .expired | .filled, .settled | .expired, .refunded => true
  | _, _ => false

end App20.Coordinator
