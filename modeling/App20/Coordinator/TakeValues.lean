import App20.Coordinator.Values
import App20.Intents.QuoteWire

/-!
# V3 requests of the coordinator

A v3 request keeps what each invited maker answered and the one take attempt that may be on its way to
the chain, beside the attempts that are closed.

* `checkV3Request`: a stored request has what its state needs, and no more.
-/

namespace App20.Coordinator

open App20.Lib App20.Domain
open App20.Intents (Hash digestText field decodeSolverQuoteV3 evaluatePriceSchedule)

/-! ## Exact terms of a take -/

structure TakeFill where
  lockId : Text
  amountA : Text
  amountB : Text
  deriving DecidableEq

structure TakeExpected where
  tokenA : Text
  totalA : Text
  tokenB : Text
  totalB : Text
  fills : List TakeFill
  deriving DecidableEq

def canonicalNonzeroFelt (value : Text) (label : String) : Except String Text :=
  let n := ofDigits 16 (value.drop 2)
  if (value.drop 2).all isLowerHexDigit = true ∧ 0 < n ∧ n < 2 ^ 252 ∧ value = hex n then .ok value
  else .error (label ++ " must be a canonical lowercase felt.")

def positiveU128Decimal (value : Text) (label : String) : Except String Text := do
  throwIf (isPositiveDecimal value = false) (label ++ " must be a positive canonical decimal amount.")
  throwIf (2 ^ 128 - 1 < decimalValue value) (label ++ " must fit in u128.")
  return value

def canonicalFill (index : Nat) (fill : TakeFill) : Except String TakeFill := do
  let lockId ← canonicalNonzeroFelt fill.lockId ("fill " ++ toString index ++ " lockId")
  let amountA ← positiveU128Decimal fill.amountA ("fill " ++ toString index ++ " amountA")
  let amountB ← positiveU128Decimal fill.amountB ("fill " ++ toString index ++ " amountB")
  return ⟨lockId, amountA, amountB⟩

def canonicalLocalnetTakeExpected (value : TakeExpected) : Except String TakeExpected := do
  throwIf (value.fills.length < 1 ∨ 4 < value.fills.length)
    "Exact v3 take requires between one and four fills."
  let fills ← value.fills.zipIdx.mapM fun (fill, index) => canonicalFill index fill
  throwIf (¬ (fills.map TakeFill.lockId).Nodup) "Exact v3 take contains a duplicate lock id."
  let tokenA ← canonicalNonzeroFelt value.tokenA "take tokenA"
  let totalA ← positiveU128Decimal value.totalA "take totalA"
  let tokenB ← canonicalNonzeroFelt value.tokenB "take tokenB"
  let totalB ← positiveU128Decimal value.totalB "take totalB"
  throwIf (tokenA = tokenB) "Exact v3 take tokens must differ."
  throwIf ((fills.map fun fill => decimalValue fill.amountA).sum ≠ decimalValue totalA ∨
      (fills.map fun fill => decimalValue fill.amountB).sum ≠ decimalValue totalB)
    "Exact v3 take totals do not match its fills."
  return ⟨tokenA, totalA, tokenB, totalB, fills⟩

/-! ## Outcomes of makers -/

/-- `V3_REFUSAL_CODES` -/
inductive RefusalCode where
  | bucket | insufficientInventory | policy | lockFailed | expired
  deriving DecidableEq

def RefusalCode.text : RefusalCode → Text
  | .bucket => "bucket".toList
  | .insufficientInventory => "insufficient-inventory".toList
  | .policy => "policy".toList
  | .lockFailed => "lock-failed".toList
  | .expired => "expired".toList

structure Refusal where
  code : RefusalCode
  reason : Text
  deriving DecidableEq

inductive MakerOutcome where
  | planned
  | quoted (quoteDigest : Text) (quote : Json)
  | refused (quoteDigest : Text) (refusal : Refusal)
  | unavailable (quoteDigest : Text) (refusal : Refusal)

def MakerOutcome.isPlanned : MakerOutcome → Bool
  | .planned => true
  | _ => false

structure V3MakerPlan where
  makerId : Text
  outcome : MakerOutcome

def validateV3MakerPlan (plan : V3MakerPlan) : Except String V3MakerPlan :=
  match plan.outcome with
  | .quoted _ quote => do
    let decoded ← decodeSolverQuoteV3 quote
    throwIf (decoded.quote.solverId ≠ plan.makerId) "Coordinator v3 quote changed its maker identity."
    return plan
  | _ => .ok plan

def digestLocalnetV3Refusal (sha256 : Hash) (makerId : Text) (refusal : Refusal) : Text :=
  digestText sha256 (Tree.object [field "makerId" (.text makerId),
    field "code" (.text refusal.code.text), field "reason" (.text refusal.reason)]).render

inductive RefusalState where
  | refused | unavailable
  deriving DecidableEq

def RefusalState.outcome (state : RefusalState) (quoteDigest : Text) (refusal : Refusal) :
    MakerOutcome :=
  match state with
  | .refused => .refused quoteDigest refusal
  | .unavailable => .unavailable quoteDigest refusal

def RefusalState.prior (state : RefusalState) : MakerOutcome → Option (Text × Refusal)
  | .refused quoteDigest refusal => if state = .refused then some (quoteDigest, refusal) else none
  | .unavailable quoteDigest refusal =>
    if state = .unavailable then some (quoteDigest, refusal) else none
  | _ => none

/-! ## Requests -/

inductive V3RequestState where
  | opened | takePending | takeUnknown | taken | expired
  deriving DecidableEq

/-- `V3_ACTIVE_STATES`, and `V3_EXPIRY_SOURCE_STATES`. -/
def V3RequestState.isActive : V3RequestState → Bool
  | .opened | .takePending | .takeUnknown => true
  | _ => false

/-- The states that need an exact attempt and terms. -/
def V3RequestState.isTake : V3RequestState → Bool
  | .takePending | .takeUnknown | .taken => true
  | _ => false

structure ClosedTake where
  attemptId : Text
  expected : TakeExpected

structure V3Request where
  rfqDigest : Text
  binding : Binding
  createdAt : Int
  admittedAt : Int
  expiresAt : Int
  market : Text
  fanoutComplete : Bool
  makerPlans : List V3MakerPlan
  state : V3RequestState
  closedTakeAttempts : List ClosedTake
  expected : Option TakeExpected
  takeAttemptId : Option Text
  takeTransactionHash : Option Text
  transcriptDigest : Option Text
  expiredAt : Option Int
  expiredFromState : Option V3RequestState

def maxV3Makers : Nat := 16
def maxClosedTakeAttempts : Nat := 8

/-- An expired request says from which state and when it expired, and has an attempt as that state
has. -/
def V3Request.ExpirySound (r : V3Request) : Prop :=
  (∃ expiredAt ∈ r.expiredAt, r.expiresAt ≤ expiredAt) ∧
    ∃ source ∈ r.expiredFromState, source.isActive = true ∧
      (source = .opened → r.takeAttemptId = none ∧ r.expected = none ∧
        r.takeTransactionHash = none) ∧
      (source ≠ .opened → r.takeAttemptId.isSome = true ∧ r.expected.isSome = true) ∧
      (source = .takePending → r.takeTransactionHash = none)

instance (r : V3Request) : Decidable r.ExpirySound :=
  inferInstanceAs (Decidable ((∃ _ ∈ _, _) ∧ ∃ _ ∈ _, _))

/-- The checks of `validateV3Request` between the fields of a request. The fields of a stored request
are in their normal form, and are not normalized again here. -/
def checkV3Request (r : V3Request) : Except String V3Request := do
  throwIf (r.makerPlans.length < 1 ∨ maxV3Makers < r.makerPlans.length)
    "Coordinator v3 maker plans must contain a bounded non-empty cohort."
  let _ ← r.makerPlans.mapM validateV3MakerPlan
  throwIf (¬ (r.makerPlans.map V3MakerPlan.makerId).Nodup)
    "Coordinator v3 maker plans contain a duplicate maker."
  throwIf (maxClosedTakeAttempts < r.closedTakeAttempts.length ∨
      ¬ (r.closedTakeAttempts.map ClosedTake.attemptId).Nodup)
    "Coordinator v3 closed take attempts exceed their cap or contain a duplicate."
  throwIf (r.expiresAt ≤ r.createdAt ∨ r.expiresAt ≤ r.admittedAt)
    "Coordinator v3 request expiry must follow creation and admission."
  throwIf (r.fanoutComplete = true ∧ r.makerPlans.any (·.outcome.isPlanned) = true)
    "Coordinator v3 fanout completion contradicts maker outcomes."
  throwIf (r.state.isTake = true ∧ (r.takeAttemptId.isNone = true ∨ r.expected.isNone = true))
    "Coordinator v3 take state requires an exact attempt and terms."
  throwIf (r.state = .opened ∧ (r.takeAttemptId.isSome = true ∨ r.expected.isSome = true ∨
      r.takeTransactionHash.isSome = true))
    "Coordinator open v3 request contains an active take lease."
  throwIf (r.state = .expired ∧ ¬ r.ExpirySound)
    "Coordinator expired v3 request has invalid expiry provenance or take evidence."
  throwIf (r.state ≠ .expired ∧ (r.expiredAt.isSome = true ∨ r.expiredFromState.isSome = true))
    "Coordinator non-expired v3 request carries expiry provenance."
  return r

structure V3RequestInput where
  rfqDigest : Text
  binding : Binding
  createdAt : Int
  expiresAt : Int
  market : Text
  makerIds : List Text

/-- `validateV3Request` of a request that begins, at a reading of the clock. -/
def beginningV3Request (localeCompare : Text → Text → Ordering) (input : V3RequestInput)
    (now : Int) : Except String V3Request := do
  throwIf (input.makerIds = []) "Coordinator v3 request requires an invited maker cohort."
  let admittedAt ← requireTimestamp now "coordinator clock"
  throwIf (maxV3Makers < input.makerIds.length)
    "Coordinator v3 maker plans must contain a bounded non-empty cohort."
  let makerIds ← input.makerIds.mapM fun makerId => requireText makerId "makerId"
  throwIf (¬ makerIds.Nodup) "Coordinator v3 maker plans contain a duplicate maker."
  let makerPlans := sort (fun a b => localeCompare a.makerId b.makerId)
    (makerIds.map fun id => (⟨id, .planned⟩ : V3MakerPlan))
  let rfqDigest ← requireHex32 input.rfqDigest "rfqDigest"
  let binding ← requestBinding input.binding
  let createdAt ← requireTimestamp input.createdAt "createdAt"
  let expiresAt ← requireTimestamp input.expiresAt "expiresAt"
  let market ← requireText input.market "market"
  checkV3Request {
    rfqDigest, binding, createdAt, admittedAt, expiresAt, makerPlans
    market := toLowerCase market
    fanoutComplete := false
    state := .opened
    closedTakeAttempts := []
    expected := none
    takeAttemptId := none
    takeTransactionHash := none
    transcriptDigest := none
    expiredAt := none
    expiredFromState := none }

/-- `sameV3Request` -/
def V3Request.Same (left right : V3Request) : Prop :=
  left.rfqDigest = right.rfqDigest ∧ left.binding = right.binding ∧
    left.createdAt = right.createdAt ∧ left.expiresAt = right.expiresAt ∧
    left.market = right.market ∧
    left.makerPlans.map V3MakerPlan.makerId = right.makerPlans.map V3MakerPlan.makerId

instance (left right : V3Request) : Decidable (left.Same right) :=
  inferInstanceAs (Decidable (_ ∧ _ ∧ _ ∧ _ ∧ _ ∧ _))

structure TakeInput where
  rfqId : Text
  dealId : Text
  account : Text
  chainId : Text
  intentDigest : Option Text
  expected : TakeExpected
  transactionHash : Option Text

end App20.Coordinator
