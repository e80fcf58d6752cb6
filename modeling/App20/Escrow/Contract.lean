import App20.Escrow.Schedule
import App20.Starknet.Runtime

/-!
# The escrow contract

Storage, events and entry points of `App20Escrow`, translated operation by operation.

A contract runs on a `Platform X`: its own address, the chain, the two hash and signature
built-ins, and the calls it makes into other contracts, whose joint state is `X`. Nothing is
assumed about these calls here: a token may answer anything and change `X` in any way. A called
contract does not call back into the escrow.
-/

namespace App20.Escrow

open App20.Lib App20.Lib.Exec App20.Starknet
open Exec (assert lift)

/-! ## Data -/

structure FundParams where
  token : ContractAddress
  amount : U128
  counterToken : ContractAddress
  counterAmount : U128
  deadline : U64
  deriving DecidableEq

structure FillParams where
  token : ContractAddress
  deriving DecidableEq

structure LockParams where
  token : ContractAddress
  counterToken : ContractAddress
  rfqId : Felt
  takerCommitment : Felt
  expiry : U64
  schedule : Schedule
  deriving DecidableEq

structure TakeFill where
  lockId : Felt
  amountA : U128
  deriving DecidableEq

structure TakeParams where
  token : ContractAddress
  counterToken : ContractAddress
  signatureR : Felt
  signatureS : Felt
  fills : List TakeFill
  deriving DecidableEq

inductive EscrowOperation where
  | fund (params : FundParams)
  | fill (params : FillParams)
  | claim
  | timeout
  | lock (params : LockParams)
  | take (params : TakeParams)
  | settleProceeds
  | releaseCollateral
  deriving DecidableEq

inductive DealStatus where
  | empty | funded | filled | settled | timedOut
  deriving DecidableEq

structure Deal where
  legAToken : ContractAddress
  legAAmount : U128
  legBToken : ContractAddress
  legBTerms : U128
  legBAmount : U128
  deadline : U64
  ticket : ContractAddress
  status : DealStatus

def Deal.default : Deal := ⟨0, 0, 0, 0, 0, 0, 0, .empty⟩

inductive LockStatus where
  | empty | opened | closed
  deriving DecidableEq

structure Lock where
  tokenA : ContractAddress
  tokenB : ContractAddress
  rfqId : Felt
  takerCommitment : Felt
  expiry : U64
  schedule : Schedule
  remainingB : U128
  earnedA : U128
  ticket : ContractAddress
  proceedsSettled : Bool
  collateralReleased : Bool
  status : LockStatus

def Lock.default : Lock := ⟨0, 0, 0, 0, 0, .empty, 0, 0, 0, false, false, .empty⟩

structure TakeRecord where
  tokenA : ContractAddress
  totalA : U128
  tokenB : ContractAddress
  totalB : U128
  fillCount : U8
  fillsDigest : Felt
  takenAt : U64

def TakeRecord.default : TakeRecord := ⟨0, 0, 0, 0, 0, 0, 0⟩

/-- A balance of the escrow observed in the same outer transaction as the pool invocation. -/
structure FundingSnapshot where
  transactionHash : Felt
  balance : U256
  prepared : Bool

structure Storage where
  pool : ContractAddress
  ticketClassHash : Felt
  deals : Felt → Deal
  tickets : Felt → ContractAddress
  /-- Expected balances after the pool applies returned deposits. -/
  accounted : ContractAddress → U256
  lockTicketClassHash : Felt
  lockTickets : Felt → ContractAddress
  locks : Felt → Lock
  takes : Felt → TakeRecord
  fundingSnapshots : ContractAddress → FundingSnapshot

inductive Event where
  | dealFunded (dealId : Felt) (legAToken : ContractAddress) (legAAmount : U128)
      (legBToken : ContractAddress) (legBTerms : U128) (deadline : U64) (ticket : ContractAddress)
  | dealFilled (dealId : Felt) (legAToken : ContractAddress) (legAAmount : U128)
      (legBToken : ContractAddress) (legBAmount : U128)
  | dealClaimed (dealId : Felt) (token : ContractAddress) (amount : U128)
  | dealTimedOut (dealId : Felt) (token : ContractAddress) (amount : U128)
  | lockCreated (lockId rfqId : Felt) (tokenA tokenB : ContractAddress) (expiry : U64)
      (maxB : U128) (schedule : Schedule) (ticket : ContractAddress)
  | lockTaken (lockId dealId : Felt) (amountA amountB remainingB : U128)
  | dealTaken (dealId : Felt) (tokenA : ContractAddress) (totalA : U128)
      (tokenB : ContractAddress) (totalB : U128) (fillCount : U8) (fillsDigest : Felt)
  | lockProceedsSettled (lockId : Felt) (token : ContractAddress) (amount : U128)
  | lockCollateralReleased (lockId : Felt) (token : ContractAddress) (amount : U128)

/-! ## The platform -/

/-- Where the escrow runs. A call into another contract gives `none` when it reverts. -/
structure Platform (X : Type) where
  contractAddress : ContractAddress
  chainId : Felt
  poseidonHashSpan : List Felt → Felt
  checkEcdsaSignature : Felt → Felt → Felt → Felt → Bool
  balanceOf : ContractAddress → ContractAddress → X → Option (U256 × X)
  approve : ContractAddress → ContractAddress → U256 → X → Option (Bool × X)
  mint : ContractAddress → X → Option X
  burn : ContractAddress → X → Option X
  deploy : Felt → Felt → List Felt → X → Option (ContractAddress × X)

/-- What a call carries besides its arguments. -/
structure CallContext where
  caller : ContractAddress
  blockTimestamp : U64
  transactionHash : Felt

/-- The storage of the escrow, the state of all other contracts, and the emitted events. -/
abbrev State (X : Type) := ContractState Storage Event X

abbrev EscrowM (X : Type) := ContractM Error Storage Event X

variable {X : Type}

def Storage.setDeal (s : Storage) (id : Felt) (d : Deal) : Storage :=
  { s with deals := Function.update s.deals id d }

def Storage.setTicket (s : Storage) (id : Felt) (a : ContractAddress) : Storage :=
  { s with tickets := Function.update s.tickets id a }

def Storage.setAccounted (s : Storage) (token : ContractAddress) (v : U256) : Storage :=
  { s with accounted := Function.update s.accounted token v }

def Storage.setLockTicket (s : Storage) (id : Felt) (a : ContractAddress) : Storage :=
  { s with lockTickets := Function.update s.lockTickets id a }

def Storage.setLock (s : Storage) (id : Felt) (l : Lock) : Storage :=
  { s with locks := Function.update s.locks id l }

def Storage.setTake (s : Storage) (id : Felt) (r : TakeRecord) : Storage :=
  { s with takes := Function.update s.takes id r }

def Storage.setSnapshot (s : Storage) (token : ContractAddress) (f : FundingSnapshot) : Storage :=
  { s with fundingSnapshots := Function.update s.fundingSnapshots token f }

def takeDomain : Felt := shortString "app20-take-v4"
def takeIdentityDomain : Felt := shortString "app20-take-id-v1"

/-! ## Funding -/

variable (P : Platform X)

def prepareFunding (cx : CallContext) (token : ContractAddress) : EscrowM X Unit := do
  assert (token ≠ 0) (.error .zeroToken)
  let balance ← external (P.balanceOf token P.contractAddress)
  let s ← readStorage
  assert ((s.accounted token).val ≤ balance.val) (.error .balanceDeficit)
  writeStorage fun s => s.setSnapshot token ⟨cx.transactionHash, balance, true⟩

def ensureTicketInternal (dealId : Felt) : EscrowM X ContractAddress := do
  assert (dealId ≠ 0) (.error .zeroDealId)
  let s ← readStorage
  if s.tickets dealId ≠ 0 then
    return s.tickets dealId
  else
    let ticket ← external
      (P.deploy s.ticketClassHash dealId [into P.contractAddress, into s.pool, dealId])
    writeStorage fun s => s.setTicket dealId ticket
    return ticket

def ensureLockTicketInternal (lockId : Felt) : EscrowM X ContractAddress := do
  assert (lockId ≠ 0) (.error .zeroDealId)
  let s ← readStorage
  if s.lockTickets lockId ≠ 0 then
    return s.lockTickets lockId
  else
    let ticket ← external
      (P.deploy s.lockTicketClassHash lockId [into P.contractAddress, into s.pool, lockId])
    writeStorage fun s => s.setLockTicket lockId ticket
    return ticket

def consumeFunding (cx : CallContext) (token : ContractAddress) (expected : U256) :
    EscrowM X Unit := do
  let s ← readStorage
  let snapshot := s.fundingSnapshots token
  assert (snapshot.prepared = true) (.error .fundingNotPrepared)
  assert (snapshot.transactionHash = cx.transactionHash) (.error .staleFunding)
  writeStorage fun s => s.setSnapshot token { snapshot with prepared := false }
  let balance ← external (P.balanceOf token P.contractAddress)
  assert (snapshot.balance.val ≤ balance.val) (.error .balanceDeficit)
  let s ← readStorage
  assert ((s.accounted token).val ≤ balance.val) (.error .balanceDeficit)
  let received ← expect (checkedSub balance snapshot.balance) .underflow
  assert (expected.val ≤ received.val) (.error .shortFill)
  assert (received = expected) (.error .excessFill)

/-- Let the pool pull `amount` of `token`. -/
def approvePool (token pool : ContractAddress) (amount : U256) : EscrowM X Unit := do
  let approved ← external (P.approve token pool amount)
  assert (approved = true) (.error .approveFailed)

/-! ## Deals -/

def fund (cx : CallContext) (dealId noteId : Felt) (params : FundParams)
    (pool : ContractAddress) : EscrowM X (List OpenNoteDeposit) := do
  assert (dealId ≠ 0) (.error .zeroDealId)
  assert (params.token ≠ 0) (.error .zeroToken)
  assert (params.counterToken ≠ 0) (.error .zeroToken)
  assert (params.token ≠ params.counterToken) (.error .sameToken)
  assert (params.counterAmount ≠ 0) (.error .zeroAmount)
  assert (params.amount ≠ 0) (.error .zeroAmount)
  assert (cx.blockTimestamp.val < params.deadline.val) (.error .deadlineNotFuture)
  let s ← readStorage
  assert ((s.deals dealId).status = .empty) (.error .dealExists)
  let ticketAddress ← ensureTicketInternal P dealId
  let s ← readStorage
  let previous := s.accounted params.token
  consumeFunding P cx params.token (into params.amount)
  let received := params.amount
  let next ← expect (checkedAdd previous (into received)) .overflow
  writeStorage fun s => s.setAccounted params.token next
  writeStorage fun s => s.setDeal dealId
    { legAToken := params.token, legAAmount := received, legBToken := params.counterToken,
      legBTerms := params.counterAmount, legBAmount := 0, deadline := params.deadline,
      ticket := ticketAddress, status := .funded }
  external fun x => (P.mint ticketAddress x).map fun x => ((), x)
  approvePool P ticketAddress pool 1
  emit (.dealFunded dealId params.token received params.counterToken params.counterAmount
    params.deadline ticketAddress)
  return [⟨noteId, ticketAddress, 1⟩]

def fill (cx : CallContext) (dealId noteId : Felt) (params : FillParams)
    (pool : ContractAddress) : EscrowM X (List OpenNoteDeposit) := do
  let s ← readStorage
  let deal := s.deals dealId
  assert (deal.status = .funded) (.error .badState)
  assert (cx.blockTimestamp.val < deal.deadline.val) (.error .dealExpired)
  assert (params.token = deal.legBToken) (.error .wrongToken)
  let legABalance ← external (P.balanceOf deal.legAToken P.contractAddress)
  let s ← readStorage
  let legAAccounted := s.accounted deal.legAToken
  assert (legAAccounted.val ≤ legABalance.val) (.error .balanceDeficit)
  assert (deal.legAAmount.val ≤ legAAccounted.val) (.error .conservationFailure)
  let legAAfter ← expect (checkedSub legAAccounted (into deal.legAAmount)) .underflow
  let s ← readStorage
  let legBAccounted := s.accounted deal.legBToken
  consumeFunding P cx deal.legBToken (into deal.legBTerms)
  writeStorage fun s => s.setAccounted deal.legAToken legAAfter
  let legBAfter ← expect (checkedAdd legBAccounted (into deal.legBTerms)) .overflow
  writeStorage fun s => s.setAccounted deal.legBToken legBAfter
  let deal := { deal with legBAmount := deal.legBTerms, status := .filled }
  writeStorage fun s => s.setDeal dealId deal
  approvePool P deal.legAToken pool (into deal.legAAmount)
  emit (.dealFilled dealId deal.legAToken deal.legAAmount deal.legBToken deal.legBTerms)
  return [⟨noteId, deal.legAToken, deal.legAAmount⟩]

/-- `consume_ticket` and `consume_lock_ticket`: burn the one unit of the ticket that the escrow
holds beyond the accounted ones. -/
def consumeTicket (ticket : ContractAddress) : EscrowM X Unit := do
  let balance ← external (P.balanceOf ticket P.contractAddress)
  let s ← readStorage
  let accounted := s.accounted ticket
  assert (accounted.val ≤ balance.val) (.error .badTicket)
  let surplus ← expect (checkedSub balance accounted) .underflow
  assert (surplus = 1) (.error .badTicket)
  external fun x => (P.burn ticket x).map fun x => ((), x)
  let balance ← external (P.balanceOf ticket P.contractAddress)
  assert (balance = accounted) (.error .badTicket)

/-- Take `amount` of `token` out of the accounted balance. -/
def payOut (token : ContractAddress) (amount : U128) : EscrowM X Unit := do
  let balance ← external (P.balanceOf token P.contractAddress)
  let s ← readStorage
  let accounted := s.accounted token
  assert (accounted.val ≤ balance.val) (.error .balanceDeficit)
  assert (amount.val ≤ accounted.val) (.error .conservationFailure)
  let after ← expect (checkedSub accounted (into amount)) .underflow
  writeStorage fun s => s.setAccounted token after

def claim (dealId noteId : Felt) (pool : ContractAddress) : EscrowM X (List OpenNoteDeposit) := do
  let s ← readStorage
  let deal := s.deals dealId
  assert (deal.status = .filled) (.error .badState)
  consumeTicket P deal.ticket
  payOut P deal.legBToken deal.legBAmount
  writeStorage fun s => s.setDeal dealId { deal with status := .settled }
  approvePool P deal.legBToken pool (into deal.legBAmount)
  emit (.dealClaimed dealId deal.legBToken deal.legBAmount)
  return [⟨noteId, deal.legBToken, deal.legBAmount⟩]

def timeout (cx : CallContext) (dealId noteId : Felt) (pool : ContractAddress) :
    EscrowM X (List OpenNoteDeposit) := do
  let s ← readStorage
  let deal := s.deals dealId
  assert (deal.status = .funded) (.error .badState)
  assert (deal.deadline.val ≤ cx.blockTimestamp.val) (.error .dealNotExpired)
  consumeTicket P deal.ticket
  payOut P deal.legAToken deal.legAAmount
  writeStorage fun s => s.setDeal dealId { deal with status := .timedOut }
  approvePool P deal.legAToken pool (into deal.legAAmount)
  emit (.dealTimedOut dealId deal.legAToken deal.legAAmount)
  return [⟨noteId, deal.legAToken, deal.legAAmount⟩]

/-! ## Locks -/

def lock (cx : CallContext) (lockId noteId : Felt) (params : LockParams)
    (pool : ContractAddress) : EscrowM X (List OpenNoteDeposit) := do
  assert (lockId ≠ 0) (.error .zeroDealId)
  let s ← readStorage
  assert ((s.locks lockId).status = .empty) (.error .lockExists)
  assert (params.token ≠ 0) (.error .zeroToken)
  assert (params.counterToken ≠ 0) (.error .zeroToken)
  assert (params.token ≠ params.counterToken) (.error .sameToken)
  assert (cx.blockTimestamp.val < params.expiry.val) (.error .deadlineNotFuture)
  let _minimum ← lift (evaluateSchedule params.schedule params.schedule.p0A)
  let maxB := scheduleMaxB params.schedule
  let ticketAddress ← ensureLockTicketInternal P lockId
  let s ← readStorage
  let previous := s.accounted params.token
  consumeFunding P cx params.token (into maxB)
  let next ← expect (checkedAdd previous (into maxB)) .overflow
  writeStorage fun s => s.setAccounted params.token next
  writeStorage fun s => s.setLock lockId
    { tokenA := params.counterToken, tokenB := params.token, rfqId := params.rfqId,
      takerCommitment := params.takerCommitment, expiry := params.expiry,
      schedule := params.schedule, remainingB := maxB, earnedA := 0, ticket := ticketAddress,
      proceedsSettled := false, collateralReleased := false, status := .opened }
  external fun x => (P.mint ticketAddress x).map fun x => ((), x)
  approvePool P ticketAddress pool 2
  emit (.lockCreated lockId params.rfqId params.counterToken params.token params.expiry maxB
    params.schedule ticketAddress)
  return [⟨noteId, ticketAddress, 2⟩]

def evaluateLockSchedule (lock : Lock) (amountA : U128) : Except EscrowPanic U128 :=
  evaluateSchedule lock.schedule amountA

def assertDistinctFills : List TakeFill → EscrowM X Unit
  | [] => pure ()
  | fill :: fills => do
    assert (∀ other ∈ fills, fill.lockId ≠ other.lockId) (.error .duplicateLock)
    assertDistinctFills fills

/-- What the checking loop of `take` carries from fill to fill. -/
structure FillCheck where
  fillIndex : Nat
  takerAuthorizationKey : Felt
  totalB : U256

/-- One iteration of the checking loop of `take`. -/
def checkFill (cx : CallContext) (dealId : Felt) (params : TakeParams) (acc : FillCheck)
    (fill : TakeFill) : EscrowM X FillCheck := do
  let s ← readStorage
  let existingLock := s.locks fill.lockId
  assert (existingLock.status = .opened) (.error .lockNotOpen)
  assert (cx.blockTimestamp.val < existingLock.expiry.val) (.error .lockExpired)
  assert (existingLock.rfqId = dealId) (.error .wrongRfq)
  assert (existingLock.tokenA = params.token ∧ existingLock.tokenB = params.counterToken)
    (.error .wrongToken)
  let key := if acc.fillIndex = 0 then existingLock.takerCommitment
    else acc.takerAuthorizationKey
  assert (existingLock.takerCommitment = key) (.error .badSignature)
  let amountB ← lift (evaluateLockSchedule existingLock fill.amountA)
  assert (amountB.val ≤ existingLock.remainingB.val) (.error .insufficientLock)
  let totalB ← expect (checkedAdd acc.totalB (into amountB)) .overflow
  return ⟨acc.fillIndex + 1, key, totalB⟩

/-- One iteration of the updating loop of `take`. -/
def applyFill (dealId : Felt) (fill : TakeFill) : EscrowM X Unit := do
  let s ← readStorage
  let existingLock := s.locks fill.lockId
  let amountB ← lift (evaluateLockSchedule existingLock fill.amountA)
  let remainingB ← expect (checkedSub existingLock.remainingB amountB) .underflow
  let earned ← expect (checkedAdd (into existingLock.earnedA : U256) (into fill.amountA)) .overflow
  let earnedA ← expect (tryInto (2 ^ 128) earned) (.error .amountOverflow)
  writeStorage fun s => s.setLock fill.lockId
    { existingLock with remainingB := remainingB, earnedA := earnedA }
  emit (.lockTaken fill.lockId dealId fill.amountA amountB remainingB)

def take (cx : CallContext) (dealId noteId : Felt) (params : TakeParams)
    (pool : ContractAddress) (identityCommitment : Felt) : EscrowM X (List OpenNoteDeposit) := do
  assert (dealId ≠ 0) (.error .zeroDealId)
  assert (identityCommitment ≠ 0) (.error .badSignature)
  let s ← readStorage
  assert ((s.takes dealId).fillCount = 0) (.error .takeExists)
  assert (0 < params.fills.length) (.error .noFills)
  assert (params.fills.length ≤ 4) (.error .tooManyFills)
  assertDistinctFills params.fills
  assert (params.token ≠ 0) (.error .zeroToken)
  assert (params.counterToken ≠ 0) (.error .zeroToken)
  assert (params.token ≠ params.counterToken) (.error .sameToken)
  let expectedA ← params.fills.foldlM
    (fun sum fill => expect (checkedAdd sum (into fill.amountA)) .overflow) (0 : U256)
  let fillsDigest := P.poseidonHashSpan
    (params.fills.flatMap fun fill => [fill.lockId, into fill.amountA])
  let s ← readStorage
  let accountedA := s.accounted params.token
  consumeFunding P cx params.token expectedA
  let checked ← params.fills.foldlM (checkFill cx dealId params) ⟨0, 0, 0⟩
  let message := P.poseidonHashSpan
    [takeDomain, P.chainId, into P.contractAddress, identityCommitment, dealId,
      into params.token, into params.counterToken, fillsDigest]
  assert (P.checkEcdsaSignature message checked.takerAuthorizationKey params.signatureR
    params.signatureS = true) (.error .badSignature)
  params.fills.foldlM (fun _ fill => applyFill dealId fill) ()
  let totalA ← expect (tryInto (2 ^ 128) expectedA) (.error .amountOverflow)
  let totalB ← expect (tryInto (2 ^ 128) checked.totalB) (.error .amountOverflow)
  let balanceB ← external (P.balanceOf params.counterToken P.contractAddress)
  let s ← readStorage
  let accountedB := s.accounted params.counterToken
  assert (accountedB.val ≤ balanceB.val) (.error .balanceDeficit)
  assert (checked.totalB.val ≤ accountedB.val) (.error .conservationFailure)
  let nextA ← expect (checkedAdd accountedA expectedA) .overflow
  writeStorage fun s => s.setAccounted params.token nextA
  let nextB ← expect (checkedSub accountedB checked.totalB) .underflow
  writeStorage fun s => s.setAccounted params.counterToken nextB
  let fillCount ← expect (if h : params.fills.length < 2 ^ 8 then some ⟨_, h⟩ else none)
    (.error .amountOverflow)
  writeStorage fun s => s.setTake dealId
    ⟨params.token, totalA, params.counterToken, totalB, fillCount, fillsDigest, cx.blockTimestamp⟩
  approvePool P params.counterToken pool (into totalB)
  emit (.dealTaken dealId params.token totalA params.counterToken totalB fillCount fillsDigest)
  return [⟨noteId, params.counterToken, totalB⟩]

/-- The guarded payment of `settle_proceeds` and `release_collateral`. -/
def payOutPositive (token pool : ContractAddress) (amount : U128) : EscrowM X Unit :=
  if 0 < amount.val then do
    payOut P token amount
    approvePool P token pool (into amount)
  else
    pure ()

def settleProceeds (cx : CallContext) (lockId noteId : Felt) (pool : ContractAddress) :
    EscrowM X (List OpenNoteDeposit) := do
  let s ← readStorage
  let existingLock := s.locks lockId
  assert (existingLock.proceedsSettled = false) (.error .alreadySettled)
  assert (existingLock.status = .opened) (.error .lockNotOpen)
  assert (existingLock.expiry.val ≤ cx.blockTimestamp.val) (.error .lockNotExpired)
  consumeTicket P existingLock.ticket
  payOutPositive P existingLock.tokenA pool existingLock.earnedA
  writeStorage fun s => s.setLock lockId
    { existingLock with
      proceedsSettled := true,
      status := if existingLock.collateralReleased then .closed else existingLock.status }
  emit (.lockProceedsSettled lockId existingLock.tokenA existingLock.earnedA)
  return if existingLock.earnedA = 0 then []
    else [⟨noteId, existingLock.tokenA, existingLock.earnedA⟩]

def releaseCollateral (cx : CallContext) (lockId noteId : Felt) (pool : ContractAddress) :
    EscrowM X (List OpenNoteDeposit) := do
  let s ← readStorage
  let existingLock := s.locks lockId
  assert (existingLock.collateralReleased = false) (.error .alreadySettled)
  assert (existingLock.status = .opened) (.error .lockNotOpen)
  assert (existingLock.expiry.val ≤ cx.blockTimestamp.val) (.error .lockNotExpired)
  consumeTicket P existingLock.ticket
  payOutPositive P existingLock.tokenB pool existingLock.remainingB
  writeStorage fun s => s.setLock lockId
    { existingLock with
      collateralReleased := true,
      status := if existingLock.proceedsSettled then .closed else existingLock.status }
  emit (.lockCollateralReleased lockId existingLock.tokenB existingLock.remainingB)
  return if existingLock.remainingB = 0 then []
    else [⟨noteId, existingLock.tokenB, existingLock.remainingB⟩]

/-! ## Entry points -/

def privacyInvoke (cx : CallContext) (operation : EscrowOperation) (dealId : Felt)
    (_poolAddress : ContractAddress) (noteId : Felt) : EscrowM X (List OpenNoteDeposit) := do
  let s ← readStorage
  let pool := s.pool
  assert (cx.caller = pool) (.error .badPool)
  match operation with
  | .fund params => fund P cx dealId noteId params pool
  | .fill params => fill P cx dealId noteId params pool
  | .claim => claim P dealId noteId pool
  | .timeout => timeout P cx dealId noteId pool
  | .lock params => lock P cx dealId noteId params pool
  | .take _ => throw (.error .badSignature)
  | .settleProceeds => settleProceeds P cx dealId noteId pool
  | .releaseCollateral => releaseCollateral P cx dealId noteId pool

def privacyInvokeWithComputation (cx : CallContext) (identityCommitment : Felt)
    (operation : EscrowOperation) (dealId : Felt) (_poolAddress : ContractAddress)
    (noteId : Felt) : EscrowM X (List OpenNoteDeposit) := do
  let s ← readStorage
  let pool := s.pool
  assert (cx.caller = pool) (.error .badPool)
  match operation with
  | .take params => take P cx dealId noteId params pool identityCommitment
  | _ => throw (.error .badState)

/-- The calls that change the storage; the remaining entry points are views. -/
inductive Call where
  | prepareFunding (token : ContractAddress)
  | privacyInvoke (operation : EscrowOperation) (dealId : Felt) (poolAddress : ContractAddress)
      (noteId : Felt)
  | privacyInvokeWithComputation (identityCommitment : Felt) (operation : EscrowOperation)
      (dealId : Felt) (poolAddress : ContractAddress) (noteId : Felt)
  | ensureTicket (dealId : Felt)
  | ensureLockTicket (lockId : Felt)
  deriving DecidableEq

def execute (cx : CallContext) : Call → EscrowM X (List OpenNoteDeposit)
  | .prepareFunding token => do
    prepareFunding P cx token
    return []
  | .privacyInvoke operation dealId poolAddress noteId =>
    privacyInvoke P cx operation dealId poolAddress noteId
  | .privacyInvokeWithComputation identityCommitment operation dealId poolAddress noteId =>
    privacyInvokeWithComputation P cx identityCommitment operation dealId poolAddress noteId
  | .ensureTicket dealId => do
    let _ ← ensureTicketInternal P dealId
    return []
  | .ensureLockTicket lockId => do
    let _ ← ensureLockTicketInternal P lockId
    return []

/-- `privacy_compute`: the public pseudonym a taker's identity key has for one RFQ. -/
def privacyCompute (cx : CallContext) (identityKey rfqId : Felt) : EscrowM X Felt := do
  let s ← readStorage
  assert (cx.caller = s.pool) (.error .badPool)
  assert (rfqId ≠ 0) (.error .zeroDealId)
  return P.poseidonHashSpan [takeIdentityDomain, identityKey, rfqId]

def quoteSchedule (cx : CallContext) (lockId : Felt) (amountA : U128) : EscrowM X U128 := do
  let s ← readStorage
  let lock := s.locks lockId
  assert (lock.status = .opened) (.error .lockNotOpen)
  assert (cx.blockTimestamp.val < lock.expiry.val) (.error .lockExpired)
  lift (evaluateLockSchedule lock amountA)

end App20.Escrow
