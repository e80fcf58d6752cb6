import App20.Coordinator.Requests
import App20.Intents.Transcript

/-!
# The take of a v3 request

The operations of v3 requests: the fanout journal of what makers answered, and the one take attempt that
a request may have on its way. A request that is due expires before any operation is carried out.

* `expireV3Requests`: what is due at a time, marked as expired.
-/

namespace App20.Coordinator

open App20.Lib App20.Domain
open App20.Reservation (isObject)
open App20.Intents (Hash decodeSolverQuoteV3 digestSolverQuoteV3 evaluatePriceSchedule)

/-! ## Limits -/

/-- `#limits` and `#maxJournalBytes` -/
structure Limits where
  maxClosedTakeAttempts : Nat
  maxV3ActivePerAccount : Nat
  maxV3ActiveGlobal : Nat
  maxV3AdmissionsPerWindow : Nat
  v3AdmissionWindowSeconds : Int
  maxV3Requests : Nat
  maxJournalBytes : Nat

/-- The limits that the coordinator has when none are given. -/
def defaultLimits : Limits := ⟨maxClosedTakeAttempts, 4, 64, 8, 60, 256, 4 * 1024 * 1024⟩

structure Limits.Checked (l : Limits) : Prop where
  positive : 0 < l.maxClosedTakeAttempts ∧ 0 < l.maxV3ActivePerAccount ∧ 0 < l.maxV3ActiveGlobal ∧
    0 < l.maxV3AdmissionsPerWindow ∧ 0 < l.v3AdmissionWindowSeconds ∧ 0 < l.maxV3Requests ∧
    0 < l.maxJournalBytes
  closed : l.maxClosedTakeAttempts ≤ Coordinator.maxClosedTakeAttempts

/-! ## Expiry -/

def V3Request.Due (r : V3Request) (stamp : Int) : Prop :=
  r.state.isActive = true ∧ r.expiresAt ≤ stamp

instance (r : V3Request) (stamp : Int) : Decidable (r.Due stamp) :=
  inferInstanceAs (Decidable (_ ∧ _))

def V3Request.expire (stamp : Int) (r : V3Request) : Except String V3Request :=
  if r.Due stamp then
    checkV3Request { r with
      state := .expired, expiredAt := some stamp, expiredFromState := some r.state }
  else .ok r

namespace Authority

def expireV3Requests (a : Authority) (stamp : Int) : Except String Authority := do
  let v3Requests ← a.v3Requests.mapM (V3Request.expire stamp)
  return { a with v3Requests }

def putV3Request (a : Authority) (r : V3Request) : Authority :=
  { a with v3Requests := a.v3Requests.put r }

/-! ## Admission -/

def activeV3Requests (a : Authority) : List V3Request :=
  a.v3Requests.entries.filter fun r => r.state.isActive

def assertV3Admission (limits : Limits) (a : Authority) (request : V3Request) (stamp : Int) :
    Except String Unit := do
  throwIf (request.expiresAt ≤ stamp) "Coordinator refuses an already-expired v3 request."
  throwIf (limits.maxV3Requests ≤ a.v3Requests.entries.length)
    "Coordinator retained v3 request quota is full."
  throwIf (limits.maxV3ActiveGlobal ≤ a.activeV3Requests.length)
    "Coordinator global v3 concurrency quota is full."
  throwIf (limits.maxV3ActivePerAccount ≤ (a.activeV3Requests.filter fun candidate =>
      candidate.binding.account = request.binding.account).length)
    "Coordinator account v3 concurrency quota is full."
  let windowStart := stamp - limits.v3AdmissionWindowSeconds
  throwIf (limits.maxV3AdmissionsPerWindow ≤ (a.v3Requests.entries.filter fun candidate =>
      candidate.binding.account = request.binding.account ∧
        windowStart < candidate.admittedAt).length)
    "Coordinator account v3 admission rate was exceeded."

def beginV3Request (localeCompare : Text → Text → Ordering) (limits : Limits) (a : Authority)
    (input : V3RequestInput) (now : Int) : Except String (Outcome V3Request) := do
  let request ← beginningV3Request localeCompare input now
  match a.v3Requests.get? request.rfqDigest with
  | some prior => do
    throwIf (¬ prior.Same request)
      "V3 RFQ digest was reused with another principal or request binding."
    return .kept prior
  | none => do
    a.assertV3Admission limits request now
    throwIf ((a.v3Owner request.binding.rfqId).any (· ≠ request.rfqDigest) = true)
      "V3 RFQ felt is already reserved by another request."
    throwIf ((a.rfqOwner request.binding.rfqId).isSome = true)
      "V3 RFQ felt is already reserved by a legacy request lifecycle."
    return .stored (a.putV3Request request) request

/-! ## The fanout journal -/

def v3RequestOf (a : Authority) (rfqDigest : Text) (missing : String) : Except String V3Request :=
  match a.v3Requests.get? rfqDigest with
  | some request => .ok request
  | none => .error missing

def v3PlanOf (plans : List V3MakerPlan) (makerId : Text) : Option V3MakerPlan :=
  plans.find? fun entry => entry.makerId = makerId

def setOutcome (plans : List V3MakerPlan) (makerId : Text) (outcome : MakerOutcome) :
    List V3MakerPlan :=
  plans.map fun entry => if entry.makerId = makerId then ⟨makerId, outcome⟩ else entry

def recordOutcome (a : Authority) (request : V3Request) (makerId : Text) (outcome : MakerOutcome) :
    Except String (Outcome V3Request) := do
  let next ← checkV3Request { request with
    makerPlans := setOutcome request.makerPlans makerId outcome }
  return .stored (a.putV3Request next) next

def outcomeFixed : String := "V3 maker outcome cannot change after journaling."

/-- `JSON.stringify` of two wires is compared by `sameWire`. -/
def recordV3Quote (sha256 : Hash) (sameWire : Json → Json → Bool) (a : Authority)
    (rfqDigest makerId : Text) (quote : Json) (quoteDigest : Text) :
    Except String (Outcome V3Request) := do
  let digest ← requireHex32 rfqDigest "rfqDigest"
  let maker ← requireText makerId "makerId"
  let request ← a.v3RequestOf digest "Cannot journal a quote for an unknown v3 request."
  match v3PlanOf request.makerPlans maker with
  | none => .error "V3 quote maker was not in the durable cohort."
  | some plan => do
    throwIf (isObject quote = false) "Coordinator v3 quote wire must be an object."
    let decoded ← decodeSolverQuoteV3 quote
    let quoteDigest ← requireHex32 quoteDigest "quoteDigest"
    throwIf (decoded.quote.solverId ≠ maker ∨ decoded.quote.rfqDigest ≠ digest ∨
        (digestSolverQuoteV3 sha256 decoded.quote.toUnsignedSolverQuoteV3).toOption ≠
          some quoteDigest)
      "V3 quote does not match its durable maker and RFQ digest."
    match plan.outcome with
    | .quoted priorDigest prior => do
      throwIf (priorDigest ≠ quoteDigest ∨ sameWire prior quote = false)
        "V3 maker replay changed its quote wire."
      return .kept request
    | .planned => a.recordOutcome request maker (.quoted quoteDigest quote)
    | _ => .error outcomeFixed

def recordV3Refusal (sha256 : Hash) (a : Authority) (rfqDigest makerId : Text) (code : RefusalCode)
    (reason : Text) (state : RefusalState) : Except String (Outcome V3Request) := do
  let digest ← requireHex32 rfqDigest "rfqDigest"
  let maker ← requireText makerId "makerId"
  let reason ← requireText reason "refusal reason"
  let wire : Refusal := ⟨code, reason⟩
  let quoteDigest := digestLocalnetV3Refusal sha256 maker wire
  let request ← a.v3RequestOf digest "Cannot journal a refusal for an unknown v3 request."
  match v3PlanOf request.makerPlans maker with
  | none => .error "V3 refusal maker was not in the durable cohort."
  | some plan =>
    match state.prior plan.outcome with
    | some prior => do
      throwIf (prior ≠ (quoteDigest, wire)) "V3 maker replay changed its refusal wire."
      return .kept request
    | none =>
      if plan.outcome.isPlanned = true then
        a.recordOutcome request maker (state.outcome quoteDigest wire)
      else .error outcomeFixed

def completeV3Fanout (a : Authority) (rfqDigest : Text) : Except String (Outcome V3Request) := do
  let digest ← requireHex32 rfqDigest "rfqDigest"
  let request ← a.v3RequestOf digest "Cannot complete an unknown v3 fanout."
  throwIf (request.makerPlans.any (·.outcome.isPlanned) = true)
    "Cannot complete v3 fanout with an ambiguous maker outcome."
  if request.fanoutComplete = true then return .kept request
  else do
    let next ← checkV3Request { request with fanoutComplete := true }
    return .stored (a.putV3Request next) next

def journalV3Transcript (a : Authority) (rfqDigest transcriptDigest : Text) :
    Except String (Outcome V3Request) := do
  let digest ← requireHex32 rfqDigest "rfqDigest"
  let transcript ← requireHex32 transcriptDigest "transcriptDigest"
  let request ← a.v3RequestOf digest "Cannot journal a transcript for an unknown v3 request."
  throwIf (request.fanoutComplete = false) "V3 transcript requires a complete durable fanout."
  match request.transcriptDigest with
  | some prior => do
    throwIf (prior ≠ transcript) "Another transcript digest is already bound to this v3 RFQ."
    return .kept request
  | none => do
    let next ← checkV3Request { request with transcriptDigest := some transcript }
    return .stored (a.putV3Request next) next

/-! ## Exact takes -/

/-- A fill is a lock of a journalled quote, at the price of its schedule. -/
def checkFill (plans : List V3MakerPlan) (expected : TakeExpected) (fill : TakeFill) :
    Except String Unit := do
  let quotes := plans.filterMap fun plan =>
    match plan.outcome with
    | .quoted _ quote => (decodeSolverQuoteV3 quote).toOption
    | _ => none
  match quotes.find? fun decoded => decoded.quote.lockId = fill.lockId with
  | none => .error "V3 take contains a lock outside its durable quote fanout."
  | some decoded =>
    throwIf (decoded.quote.sellToken ≠ expected.tokenA ∨ decoded.quote.buyToken ≠ expected.tokenB ∨
        (evaluatePriceSchedule decoded.quote.schedule (decimalValue fill.amountA)).toOption ≠
          some (decimalValue fill.amountB))
      "V3 take fill does not match its quoted schedule and tokens."

def exactV3Take (a : Authority) (input : TakeInput) (action : String) :
    Except String (V3Request × TakeExpected) := do
  let rfqId ← requireFelt input.rfqId "rfqId"
  let dealId ← requireFelt input.dealId "dealId"
  throwIf (rfqId ≠ dealId) "V3 take deal identity must equal its RFQ felt."
  let mismatch := action ++ " does not match the durable v3 RFQ principal."
  match (a.v3Owner rfqId).bind a.v3Requests.get? with
  | none => .error mismatch
  | some request => do
    let account ← requireFelt input.account "account"
    throwIf (request.binding.account ≠ account) mismatch
    let chainId ← requireText input.chainId "chainId"
    throwIf (request.binding.chainId ≠ toLowerCase chainId) mismatch
    match input.intentDigest with
    | none => pure ()
    | some intentDigest => do
      let intentDigest ← requireHex32 intentDigest "intentDigest"
      throwIf (request.binding.intentDigest ≠ intentDigest) mismatch
    throwIf (request.fanoutComplete = false) (action ++ " requires a complete durable v3 fanout.")
    throwIf (request.transcriptDigest.isNone = true)
      (action ++ " requires a durable fair-loss transcript.")
    let expected ← canonicalLocalnetTakeExpected input.expected
    let _ ← expected.fills.mapM (checkFill request.makerPlans expected)
    return (request, expected)

def takeHash (request : V3Request) (transactionHash : Option Text) : Except String (Option Text) :=
  match transactionHash with
  | none => .ok request.takeTransactionHash
  | some transactionHash => do
    let transactionHash ← requireFelt transactionHash "transactionHash"
    throwIf (request.takeTransactionHash.any (· ≠ transactionHash) = true)
      "V3 take attempt changed its transaction hash."
    return some transactionHash

def Holds (request : V3Request) (attempt : Text) (expected : TakeExpected) : Prop :=
  request.takeAttemptId = some attempt ∧ request.expected = some expected

instance (request : V3Request) (attempt : Text) (expected : TakeExpected) :
    Decidable (Holds request attempt expected) := inferInstanceAs (Decidable (_ ∧ _))

def closedAttempt (request : V3Request) (attempt : Text) : Option ClosedTake :=
  request.closedTakeAttempts.find? fun entry => entry.attemptId = attempt

def anotherLease : String := "Another exact v3 take attempt owns the durable lease."

def closedQuota : String := "Coordinator v3 closed-take attempt quota is full."

def store (a : Authority) (request : V3Request) : Except String (Outcome V3Request) := do
  let next ← checkV3Request request
  return .stored (a.putV3Request next) next

/-! ## Take attempts -/

def prepareTake (limits : Limits) (a : Authority) (input : TakeInput) (attemptId : Text) :
    Except String (Outcome V3Request) := do
  let (request, expected) ← a.exactV3Take input "V3 take preparation"
  let attempt ← requireAttemptId attemptId "attemptId"
  throwIf ((closedAttempt request attempt).isSome = true)
    "V3 take attempt is durably closed and cannot be prepared again."
  match request.state with
  | .takeUnknown => .error "V3 take outcome is unknown; reconcile the exact attempt first."
  | .taken => .error "V3 take is already authoritatively recorded."
  | .expired => .error "V3 RFQ expiry permanently closes take submission."
  | .takePending => do
    throwIf (¬ Holds request attempt expected) anotherLease
    return .kept request
  | .opened => do
    throwIf (limits.maxClosedTakeAttempts ≤ request.closedTakeAttempts.length) closedQuota
    a.store { request with
      state := .takePending, takeAttemptId := some attempt, expected := some expected }

def markTakeUnknown (a : Authority) (input : TakeInput) (attemptId : Text) :
    Except String (Outcome V3Request) := do
  let (request, expected) ← a.exactV3Take input "V3 take unknown"
  let attempt ← requireAttemptId attemptId "attemptId"
  throwIf (request.state = .opened ∨ request.state = .taken ∨ ¬ Holds request attempt expected)
    "Only the exact active v3 take lease may become unknown."
  let takeTransactionHash ← takeHash request input.transactionHash
  if (request.state = .takeUnknown ∨ (request.state = .expired ∧
      request.expiredFromState = some .takeUnknown)) ∧
      request.takeTransactionHash = takeTransactionHash then
    return .kept request
  else if request.state = .expired then
    a.store { request with
      expiredFromState := some .takeUnknown, takeTransactionHash }
  else a.store { request with state := .takeUnknown, takeTransactionHash }

def closeTake (limits : Limits) (a : Authority) (request : V3Request) (attempt : Text)
    (expected : TakeExpected) : Except String (Outcome V3Request) := do
  throwIf (limits.maxClosedTakeAttempts ≤ request.closedTakeAttempts.length) closedQuota
  a.store { request with
    expected := none, takeAttemptId := none, takeTransactionHash := none
    state := if request.state = .expired then .expired else .opened
    expiredFromState := if request.state = .expired then some .opened else request.expiredFromState
    closedTakeAttempts := request.closedTakeAttempts ++ [⟨attempt, expected⟩] }

def abandonTake (limits : Limits) (a : Authority) (input : TakeInput) (attemptId : Text) :
    Except String (Outcome V3Request) := do
  let (request, expected) ← a.exactV3Take input "V3 take abandonment"
  let attempt ← requireAttemptId attemptId "attemptId"
  match closedAttempt request attempt with
  | some closed => do
    throwIf (closed.expected ≠ expected) "V3 take abandonment replay changed its exact terms."
    return .kept request
  | none => do
    throwIf (request.state = .takeUnknown ∨ request.state = .taken ∨ (request.state = .expired ∧
        request.expiredFromState = some .takeUnknown))
      "Only an absent pre-submission v3 take may be abandoned."
    throwIf ((request.state = .takePending ∨ request.state = .expired) ∧
        ¬ Holds request attempt expected) anotherLease
    closeTake limits a request attempt expected

def observeTaken (a : Authority) (input : TakeInput) (attemptId : Text) :
    Except String (Outcome V3Request) := do
  let (request, expected) ← a.exactV3Take input "V3 take observation"
  let attempt ← requireAttemptId attemptId "attemptId"
  throwIf (request.state = .opened ∨ ¬ Holds request attempt expected)
    "Observed v3 take does not own the exact durable lease."
  let takeTransactionHash ← takeHash request input.transactionHash
  if request.state = .taken ∧ request.takeTransactionHash = takeTransactionHash then
    return .kept request
  else
    a.store { request with
      expiredAt := none, expiredFromState := none, state := .taken, takeTransactionHash }

def markTakeAbsent (limits : Limits) (a : Authority) (input : TakeInput) (attemptId : Text) :
    Except String (Outcome V3Request) := do
  let (request, expected) ← a.exactV3Take input "V3 take absence"
  let attempt ← requireAttemptId attemptId "attemptId"
  match closedAttempt request attempt with
  | some closed => do
    throwIf (closed.expected ≠ expected) "V3 take absence replay changed its exact terms."
    return .kept request
  | none => do
    throwIf (request.state = .opened ∨ request.state = .taken ∨ ¬ Holds request attempt expected)
      "V3 take absence does not own the exact durable lease."
    closeTake limits a request attempt expected

end Authority

end App20.Coordinator
