import App20.Intents.PriceSchedule
import App20.Reservation.Protocol

/-!
# Durable locks of a maker

The record that a maker node keeps of a v3 lock, its canonical form, and what the node makes of a
record when it has read the chain, or failed to.
-/

namespace App20.Maker

open App20.Lib App20.Domain App20.Intents
open App20.Reservation (maxSafeInteger)

/-! ## Errors and texts -/

inductive MakerError where
  /-- `MakerNodeError`, and the errors of the protocol package. -/
  | node (message : String)
  /-- `AuthenticatedLockContradictionError` -/
  | contradiction (message : String)
  deriving DecidableEq

/-- A check of the protocol package. -/
def ofProtocol {α : Type} (x : Except String α) : Except MakerError α := x.mapError .node

def maxTextLength : Nat := 8192
def maxFeltHexLength : Nat := 66

def requireText (value : Text) (label : String) : Except MakerError Text := do
  let normalized := trim value
  throwIf (normalized = []) (.node (label ++ " is required."))
  throwIf (maxTextLength < normalized.length) (.node (label ++ " exceeds the bounded length."))
  return normalized

def requireHex32 (value : Text) (label : String) : Except MakerError Text := do
  let normalized := toLowerCase (trim value)
  throwIf (isHex32 normalized = false)
    (.node (label ++ " must be a canonical 32-byte hex value."))
  return normalized

/-- `/^0x[0-9a-f]{1,64}$/` -/
def isFeltHex (s : Text) : Bool :=
  match s with
  | '0' :: 'x' :: ds => decide (1 ≤ ds.length ∧ ds.length ≤ 64) && ds.all isLowerHexDigit
  | _ => false

def requireFeltText (value : Text) (label : String) : Except MakerError Text := do
  let normalized := toLowerCase (← requireText value label)
  throwIf (maxFeltHexLength < normalized.length ∨ isFeltHex normalized = false)
    (.node (label ++ " must be a canonical felt."))
  return normalized

/-- `requireAmount` and `requireNonnegativeAmount`: a u128 from `least` on. -/
def requireFrom (least : Int) (value : Int) (message : String) : Except MakerError Int := do
  throwIf (value < least ∨ maxU128 < value) (.node message)
  return value

def requireAmount (value : Int) (label : String) : Except MakerError Int :=
  requireFrom 1 value (label ++ " must be a positive u128 value.")

def requireNonnegativeAmount (value : Int) (label : String) : Except MakerError Int :=
  requireFrom 0 value (label ++ " must be a non-negative u128 value.")

/-- `requireTimestamp` and `requireNonnegativeCounter`: a safe integer from `least` on. -/
def requireSafe (least : Int) (value : Int) (message : String) : Except MakerError Int := do
  throwIf (value < least ∨ maxSafeInteger < value) (.node message)
  return value

def requireTimestamp (value : Int) (label : String) : Except MakerError Int :=
  requireSafe 1 value (label ++ " must be a positive unix-seconds timestamp.")

def requireNonnegativeCounter (value : Int) (label : String) : Except MakerError Int :=
  requireSafe 0 value (label ++ " must be a non-negative safe integer.")

def requireSpread (value : Int) : Except MakerError Int := do
  throwIf (value < 0 ∨ 10000 ≤ value) (.node "spreadBps must be an integer in [0, 10000). ")
  return value

def optionally {α β : Type} (check : α → Except MakerError β) :
    Option α → Except MakerError (Option β)
  | none => .ok none
  | some value => (check value).map some

def digits (base : Nat) (isDigit : Char → Bool) (ds : Text) : Option Int :=
  if ds ≠ [] ∧ ds.all isDigit then some (ofDigits base ds) else none

/-- `BigInt` of a text; `none` is an error. -/
def parseBigInt (s : Text) : Option Int :=
  match trim s with
  | [] => some 0
  | '+' :: ds => digits 10 isDecDigit ds
  | '-' :: ds => (digits 10 isDecDigit ds).map Neg.neg
  | '0' :: c :: ds =>
    if c = 'x' ∨ c = 'X' then digits 16 isHexDigit ds
    else if c = 'o' ∨ c = 'O' then digits 8 (fun d => decide (48 ≤ d.toNat ∧ d.toNat ≤ 55)) ds
    else if c = 'b' ∨ c = 'B' then digits 2 (fun d => decide (48 ≤ d.toNat ∧ d.toNat ≤ 49)) ds
    else digits 10 isDecDigit ('0' :: c :: ds)
  | ds => digits 10 isDecDigit ds

def sameFelt (left right : Text) : Bool :=
  match parseBigInt left, parseBigInt right with
  | some l, some r => l == r
  | _, _ => false

/-! ## Records -/

inductive LockState where
  | locking | opened | taken | expired | settling | reconcilePending | settlementUnknown | settled
  | quarantined
  deriving DecidableEq

inductive PriorState where
  | locking | opened | taken | expired | settling
  deriving DecidableEq

inductive SettlementAction where
  | proceeds | release
  deriving DecidableEq

structure SettlementAttempt where
  action : SettlementAction
  attempt : Int
  attemptedAt : Int
  transactionHash : Option Text

/-- The state that an operator expects is always that of quarantine. -/
structure OperatorResolution where
  reason : Text
  resolvedAt : Int

structure V3TerminalReconciliation where
  idempotencyKey : Text
  authorityDigest : Text
  authorityRevision : Int
  transactionHash : Text
  reconciledAt : Int

structure StoredLock where
  lockId : Text
  rfqDigest : Text
  rfqFelt : Text
  takerCommitment : Text
  tokenA : Text
  tokenB : Text
  schedule : List PriceSchedulePoint
  maxB : Int
  expiry : Int
  ticket : Text
  lockTxHash : Text
  state : LockState
  takenA : Int
  takenB : Int
  proceedsTxHash : Option Text
  releaseTxHash : Option Text
  quoteDigest : Option Text
  priorState : Option PriorState
  reconciliationFailures : Option Int
  nextReconciliationAt : Option Int
  reason : Option Text
  quarantinedAt : Option Int
  settlementAttemptCount : Option Int
  settlementAttempt : Option SettlementAttempt
  operatorResolution : Option OperatorResolution
  nonce : Text
  quotedAt : Int
  spreadBps : Int
  pricingProvenance : Text
  signature : Option Text
  settlingAction : Option SettlementAction
  terminalReconciliation : Option V3TerminalReconciliation

/-! ## The canonical form -/

def canonicalAttempt (a : SettlementAttempt) : Except MakerError SettlementAttempt := do
  let attempt ← requireNonnegativeCounter a.attempt "lock settlement attempt"
  let attemptedAt ← requireTimestamp a.attemptedAt "lock settlement attemptedAt"
  let transactionHash ←
    optionally (requireFeltText · "lock settlement transaction hash") a.transactionHash
  return ⟨a.action, attempt, attemptedAt, transactionHash⟩

def canonicalResolution (r : OperatorResolution) : Except MakerError OperatorResolution := do
  let reason ← requireText r.reason "lock operator resolution reason"
  let resolvedAt ← requireTimestamp r.resolvedAt "lock operator resolution time"
  return ⟨reason, resolvedAt⟩

def canonicalTerminal (t : V3TerminalReconciliation) :
    Except MakerError V3TerminalReconciliation := do
  let idempotencyKey ← requireText t.idempotencyKey "lock reconciliation idempotency key"
  let authorityDigest ← requireHex32 t.authorityDigest "lock reconciliation authority digest"
  let authorityRevision ←
    requireTimestamp t.authorityRevision "lock reconciliation authority revision"
  let transactionHash ← requireFeltText t.transactionHash "lock reconciliation transaction hash"
  let reconciledAt ← requireTimestamp t.reconciledAt "lock reconciliation time"
  return ⟨idempotencyKey, authorityDigest, authorityRevision, transactionHash, reconciledAt⟩

/-- The checks of `canonicalLockOperationalFields` between the fields. -/
def checkOperational (state : LockState) (priorState : Option PriorState) (count : Option Int)
    (attempt : Option SettlementAttempt) : Except MakerError Unit := do
  throwIf (attempt.any fun a => a.attempt = 0)
    (.node "Lock settlement attempt must be positive.")
  throwIf (attempt.any fun a => count.any fun n => n < a.attempt)
    (.node "Lock settlement attempt exceeds its durable attempt count.")
  throwIf ((state = .reconcilePending ∨ state = .settlementUnknown) ∧ priorState = none)
    (.node "A reconciling lock must retain its prior state.")
  throwIf (state = .settlementUnknown ∧ attempt = none)
    (.node "An unknown settlement must retain its durable attempt.")

/-- The schedule of a lock with its maximal payout. -/
def checkSchedule (schedule : List PriceSchedulePoint) (maxB : Int) : Except MakerError Unit := do
  let _ ← (assertPriceSchedule schedule).mapError fun e => .node e.message
  let _ ← requireAmount maxB "lock maxB"
  throwIf (schedule.getLast?.map PriceSchedulePoint.b ≠ some maxB)
    (.node "Lock maxB must equal the schedule maximum payout.")

def canonicalStoredLock (r : StoredLock) : Except MakerError StoredLock := do
  checkSchedule r.schedule r.maxB
  let spreadBps ← requireSpread r.spreadBps
  let quoteDigest ← optionally (requireHex32 · "lock quoteDigest") r.quoteDigest
  let terminalReconciliation ← optionally canonicalTerminal r.terminalReconciliation
  let lockId ← requireFeltText r.lockId "lockId"
  let rfqDigest ← requireHex32 r.rfqDigest "lock rfqDigest"
  let rfqFelt ← requireFeltText r.rfqFelt "lock rfqFelt"
  let takerCommitment ← requireFeltText r.takerCommitment "lock takerCommitment"
  let tokenA ← requireFeltText r.tokenA "lock tokenA"
  let tokenB ← requireFeltText r.tokenB "lock tokenB"
  let expiry ← requireTimestamp r.expiry "lock expiry"
  let ticket ← requireFeltText r.ticket "lock ticket"
  let lockTxHash ← requireFeltText r.lockTxHash "lock transaction hash"
  let takenA ← requireNonnegativeAmount r.takenA "lock takenA"
  let takenB ← requireNonnegativeAmount r.takenB "lock takenB"
  let proceedsTxHash ←
    optionally (requireFeltText · "lock proceeds transaction hash") r.proceedsTxHash
  let releaseTxHash ← optionally (requireFeltText · "lock release transaction hash") r.releaseTxHash
  let reconciliationFailures ←
    optionally (requireNonnegativeCounter · "lock reconciliationFailures") r.reconciliationFailures
  let nextReconciliationAt ←
    optionally (requireTimestamp · "lock nextReconciliationAt") r.nextReconciliationAt
  let reason ← optionally (requireText · "lock reason") r.reason
  let quarantinedAt ← optionally (requireTimestamp · "lock quarantinedAt") r.quarantinedAt
  let settlementAttemptCount ←
    optionally (requireNonnegativeCounter · "lock settlementAttemptCount") r.settlementAttemptCount
  let settlementAttempt ← optionally canonicalAttempt r.settlementAttempt
  let operatorResolution ← optionally canonicalResolution r.operatorResolution
  checkOperational r.state r.priorState settlementAttemptCount settlementAttempt
  let nonce ← requireHex32 r.nonce "lock nonce"
  let quotedAt ← requireTimestamp r.quotedAt "lock quotedAt"
  let pricingProvenance ← requireText r.pricingProvenance "lock pricingProvenance"
  let signature ← optionally (requireText · "lock signature") r.signature
  return { r with
    spreadBps, quoteDigest, terminalReconciliation, lockId, rfqDigest, rfqFelt, takerCommitment,
    tokenA, tokenB, expiry, ticket, lockTxHash, takenA, takenB, proceedsTxHash, releaseTxHash,
    reconciliationFailures, nextReconciliationAt, reason, quarantinedAt, settlementAttemptCount,
    settlementAttempt, operatorResolution, nonce, quotedAt, pricingProvenance, signature }

/-! ## Locks on the chain -/

inductive ChainStatus where
  | empty | opened | closed
  deriving DecidableEq

structure OnChainLock where
  tokenA : Text
  tokenB : Text
  rfqId : Text
  takerCommitment : Text
  expiry : Int
  schedule : List PriceSchedulePoint
  remainingB : Int
  earnedA : Int
  ticket : Text
  proceedsSettled : Bool
  collateralReleased : Bool
  status : ChainStatus

def schedulesMatch (left right : List PriceSchedulePoint) : Bool :=
  match assertPriceSchedule left, assertPriceSchedule right with
  | .ok _, .ok _ => left == right
  | _, _ => false

def checkFlags (chain : OnChainLock) : Bool :=
  match chain.status with
  | .closed => !chain.proceedsSettled || !chain.collateralReleased
  | .opened => chain.proceedsSettled && chain.collateralReleased
  | .empty => false

def requireBoundChainLock (chain : OnChainLock) (record : StoredLock) :
    Except MakerError OnChainLock := do
  throwIf (chain.status = .empty)
    (.contradiction "Escrow reports that the durable lock is empty.")
  let _ ← (assertPriceSchedule chain.schedule).mapError fun e => .node e.message
  let _ ← requireFeltText chain.rfqId "on-chain lock rfqId"
  let _ ← requireFeltText chain.takerCommitment "on-chain taker commitment"
  let _ ← requireFeltText chain.tokenA "on-chain tokenA"
  let _ ← requireFeltText chain.tokenB "on-chain tokenB"
  let _ ← requireFeltText chain.ticket "on-chain lock ticket"
  let _ ← requireTimestamp chain.expiry "on-chain lock expiry"
  let _ ← requireNonnegativeAmount chain.remainingB "on-chain remaining collateral"
  let _ ← requireNonnegativeAmount chain.earnedA "on-chain earned proceeds"
  throwIf (checkFlags chain = true)
    (.contradiction "Escrow lock status contradicts its settlement flags.")
  throwIf (record.maxB - chain.remainingB < 0 ∨ chain.earnedA < record.takenA ∨
      record.maxB - chain.remainingB < record.takenB ∨ sameFelt chain.rfqId record.rfqFelt = false ∨
      sameFelt chain.takerCommitment record.takerCommitment = false ∨
      sameFelt chain.tokenA record.tokenA = false ∨ sameFelt chain.tokenB record.tokenB = false ∨
      chain.expiry ≠ record.expiry ∨ schedulesMatch chain.schedule record.schedule = false ∨
      sameFelt chain.ticket record.ticket = false)
    (.contradiction "On-chain lock does not match its durable maker binding.")
  return chain

def settlementActionComplete (action : SettlementAction) (chain : OnChainLock) : Bool :=
  match action with
  | .proceeds => chain.proceedsSettled
  | .release => chain.collateralReleased

/-! ## New versions of a record -/

def LockState.Terminal (s : LockState) : Prop := s = .settled ∨ s = .quarantined

instance (s : LockState) : Decidable s.Terminal := inferInstanceAs (Decidable (_ ∨ _))

def priorLockState (record : StoredLock) (now : Int) : PriorState :=
  match record.priorState with
  | some prior => prior
  | none =>
    match record.state with
    | .locking => .locking
    | .opened => .opened
    | .taken => .taken
    | .expired => .expired
    | .settling => .settling
    | .reconcilePending | .settlementUnknown | .settled | .quarantined =>
      if record.expiry ≤ now then .expired else .opened

def lockReconciliationMaxFailures : Int := 20
def lockReconciliationBackoffCapSeconds : Int := 60

def reconciliationBackoffSeconds (failures : Int) : Int :=
  min lockReconciliationBackoffCapSeconds (2 ^ (min (failures - 1) 30).toNat)

/-- What a failed reconciliation leaves pending. -/
inductive Pending where
  | reconcile | settlement

def Pending.state : Pending → LockState
  | .reconcile => .reconcilePending
  | .settlement => .settlementUnknown

def Pending.reason : Pending → Text
  | .reconcile => "rpc-unavailable".toList
  | .settlement => "settlement-outcome-unknown".toList

def lockWithReconciliationFailure (record : StoredLock) (now : Int) (pending : Pending) :
    Except MakerError StoredLock :=
  let failures := record.reconciliationFailures.getD 0 + 1
  let priorState := priorLockState record now
  if lockReconciliationMaxFailures ≤ failures then
    canonicalStoredLock { record with
      state := .quarantined, priorState := some priorState,
      reconciliationFailures := some failures, nextReconciliationAt := none,
      reason := some "reconciliation-exhausted".toList, quarantinedAt := some now,
      settlingAction := none }
  else
    canonicalStoredLock { record with
      state := pending.state, priorState := some priorState,
      reconciliationFailures := some failures,
      nextReconciliationAt := some (now + reconciliationBackoffSeconds failures),
      reason := some pending.reason, quarantinedAt := none, settlingAction := none }

def quarantinedLock (record : StoredLock) (now : Int) : Except MakerError StoredLock :=
  canonicalStoredLock { record with
    state := .quarantined, priorState := some (priorLockState record now),
    nextReconciliationAt := none, reason := some "authenticated-contradiction".toList,
    quarantinedAt := some now, settlingAction := none }

def lockStateFromChain (record : StoredLock) (chain : OnChainLock) (now : Int) :
    Except MakerError StoredLock := do
  let bound ← requireBoundChainLock chain record
  canonicalStoredLock { record with
    state :=
      if bound.proceedsSettled ∧ bound.collateralReleased then .settled
      else if record.expiry ≤ now then .expired
      else if 0 < bound.earnedA then .taken
      else .opened
    takenA := bound.earnedA, takenB := record.maxB - bound.remainingB, priorState := none,
    reconciliationFailures := none, nextReconciliationAt := none, reason := none,
    quarantinedAt := none, settlementAttempt := none, settlingAction := none }

end App20.Maker
