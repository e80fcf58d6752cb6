import App20.Rfq.Identities

/-!
# RFQ lifecycle records

The record of one RFQ that a browser keeps, its attempts and their targets, and the successor of a
record. Two values with the same fields are one value: the order in which fields were set is left
out, and so is the text of the schema, which every record has.

* `reviseRfqLifecycle_revision`: a successor is one revision above what it is based on.
-/

namespace App20.Rfq

open App20.Lib App20.Domain

/-! ## States and phases -/

inductive Mode where
  | v2 | v3
  deriving DecidableEq

def Mode.name : Mode → String
  | .v2 => "v2"
  | .v3 => "v3"

inductive RfqLifecycleState where
  | draft | requesting | quoted | reviewing | submissionUnknown | funded | filled | claimable
  | settled | expired | refundable | refunded | refused | cancelPending | cancelled | reorged
  | quarantined
  deriving DecidableEq

namespace RfqLifecycleState

def name : RfqLifecycleState → String
  | draft => "draft"
  | requesting => "requesting"
  | quoted => "quoted"
  | reviewing => "reviewing"
  | submissionUnknown => "submission-unknown"
  | funded => "funded"
  | filled => "filled"
  | claimable => "claimable"
  | settled => "settled"
  | expired => "expired"
  | refundable => "refundable"
  | refunded => "refunded"
  | refused => "refused"
  | cancelPending => "cancel-pending"
  | cancelled => "cancelled"
  | reorged => "reorged"
  | quarantined => "quarantined"

/-- `STATES` -/
def all : List RfqLifecycleState :=
  [draft, requesting, quoted, reviewing, submissionUnknown, funded, filled, claimable, settled,
    expired, refundable, refunded, refused, cancelPending, cancelled, reorged, quarantined]

end RfqLifecycleState

def allowed : RfqLifecycleState → List RfqLifecycleState
  | .draft => [.requesting, .cancelled, .quarantined]
  | .requesting => [.quoted, .refused, .cancelPending, .quarantined]
  | .quoted => [.reviewing, .expired, .cancelPending, .quarantined]
  | .reviewing => [.submissionUnknown, .expired, .cancelPending, .quarantined]
  | .submissionUnknown => [.reviewing, .funded, .settled, .refundable, .quarantined]
  | .funded => [.filled, .expired, .refundable, .quarantined]
  | .filled => [.claimable, .quarantined]
  | .claimable => [.settled, .quarantined]
  | .settled => [.quarantined]
  | .expired => [.refundable, .cancelPending, .cancelled, .quarantined]
  | .refundable => [.refunded, .quarantined]
  | .refunded => [.quarantined]
  | .refused => [.cancelled, .quarantined]
  | .cancelPending => [.cancelled, .expired, .quarantined]
  | .cancelled => [.quarantined]
  | .reorged => [.quarantined]
  | .quarantined => [.cancelPending]

/-- `RfqLifecycleAttemptPhase` -/
inductive Phase where
  | funding | fill | claim | refund | reservationRelease | take
  deriving DecidableEq

def Phase.name : Phase → String
  | .funding => "funding"
  | .fill => "fill"
  | .claim => "claim"
  | .refund => "refund"
  | .reservationRelease => "reservation-release"
  | .take => "take"

def Phase.all : List Phase := [.funding, .fill, .claim, .refund, .reservationRelease, .take]

theorem Phase.mem_all (phase : Phase) : phase ∈ Phase.all := by
  cases phase <;> decide

/-! ## Attempts -/

inductive AttemptState where
  | preparing | walletBoundaryUnknown | submittedUnknown | confirmed | reverted
  deriving DecidableEq

inductive WalletBoundary where
  | notEntered | entered
  deriving DecidableEq

structure TargetScope where
  chainId : Text
  account : Text
  rfqId : Text
  requestDigest : Text
  deriving DecidableEq

/-- What the targets of a funding ticket and of a maker's fill share. -/
structure SettlementTarget where
  dealId : Text
  solverId : Text
  reservationId : Text
  reservationFence : Text
  quoteDigest : Text
  sellToken : Text
  sellAmount : Text
  buyToken : Text
  buyAmount : Text
  deadline : Int
  deriving DecidableEq

structure TakeFill where
  lockId : Text
  amountA : Text
  amountB : Text
  deriving DecidableEq

structure TakeExpected where
  tokenA : Text
  totalA : Text
  tokenB : Text
  totalB : Text
  fills : List TakeFill
  deriving DecidableEq

inductive TargetOperation where
  | requestReservations (releaseLeaseId : Text)
  | fundedSettlementExpiry (dealId escrowAddress solverId reservationId reservationFence
      quoteDigest : Text)
  | fundingTicket (settlement : SettlementTarget)
  | makerFill (settlement : SettlementTarget) (ticketAddress : Text)
  | take (dealId : Text) (expected : TakeExpected)
  deriving DecidableEq

/-- `RfqLifecycleAttemptTarget` -/
structure AttemptTarget extends TargetScope where
  operation : TargetOperation
  deriving DecidableEq

structure RfqTakeAttemptTarget extends TargetScope where
  dealId : Text
  expected : TakeExpected

/-- `RfqPhaseAttempt` and `RfqTakePhaseAttempt` -/
structure PhaseAttempt where
  attemptId : Text
  state : AttemptState
  createdAt : Int
  updatedAt : Int
  transactionHash : Option Text
  observation : Option Text
  walletBoundary : Option WalletBoundary
  target : Option AttemptTarget
  deriving DecidableEq

structure Attempts where
  funding : Option PhaseAttempt
  fill : Option PhaseAttempt
  claim : Option PhaseAttempt
  refund : Option PhaseAttempt
  reservationRelease : Option PhaseAttempt
  take : Option PhaseAttempt
  deriving DecidableEq

namespace Attempts

def empty : Attempts := ⟨none, none, none, none, none, none⟩

/-- `attempts[phase]` -/
def get (attempts : Attempts) : Phase → Option PhaseAttempt
  | .funding => attempts.funding
  | .fill => attempts.fill
  | .claim => attempts.claim
  | .refund => attempts.refund
  | .reservationRelease => attempts.reservationRelease
  | .take => attempts.take

/-- `{ ...attempts, [phase]: attempt }` -/
def set (attempts : Attempts) (phase : Phase) (attempt : PhaseAttempt) : Attempts :=
  match phase with
  | .funding => { attempts with funding := some attempt }
  | .fill => { attempts with fill := some attempt }
  | .claim => { attempts with claim := some attempt }
  | .refund => { attempts with refund := some attempt }
  | .reservationRelease => { attempts with reservationRelease := some attempt }
  | .take => { attempts with take := some attempt }

@[simp] theorem get_empty (phase : Phase) : empty.get phase = none := by
  cases phase <;> rfl

@[simp] theorem get_set_self (attempts : Attempts) (phase : Phase) (attempt : PhaseAttempt) :
    (attempts.set phase attempt).get phase = some attempt := by
  cases phase <;> rfl

theorem get_set_of_ne (attempts : Attempts) {phase other : Phase} (attempt : PhaseAttempt)
    (h : other ≠ phase) : (attempts.set phase attempt).get other = attempts.get other := by
  cases phase <;> cases other <;> first | rfl | exact absurd rfl h

theorem take_set_of_ne (attempts : Attempts) {phase : Phase} (attempt : PhaseAttempt)
    (h : phase ≠ .take) : (attempts.set phase attempt).take = attempts.take :=
  get_set_of_ne attempts attempt h.symm

end Attempts

/-! ## Records -/

structure RfqV3Fill where
  makerId : Text
  lockId : Text
  amountA : Text
  amountB : Text
  lockExpiresAt : Int
  deriving DecidableEq

structure RfqExactTerms where
  pairId : Text
  sellSymbol : Text
  sellAddress : Text
  sellDecimals : Int
  sellAmount : Text
  buySymbol : Text
  buyAddress : Text
  buyDecimals : Int
  minBuyAmount : Option Text
  buyAmount : Option Text
  rfqExpiresAt : Int
  deriving DecidableEq

inductive QuoteVersion where
  | v1 | v2
  deriving DecidableEq

structure RfqSelectedQuote where
  version : QuoteVersion
  solverId : Text
  solverKey : Text
  nonce : Text
  reservationId : Text
  spreadBps : Int
  pricingProvenance : Text
  quotedAt : Int
  quoteExpiresAt : Int
  reservationExpiresAt : Int
  buyAmount : Text
  intentDigest : Text
  signature : Text
  quoteDigest : Option Text
  reservationFence : Option Text
  deriving DecidableEq

inductive SettlementVersion where
  | localnetV2 | localnetV3
  deriving DecidableEq

structure RfqSettlementIdentity where
  version : SettlementVersion
  escrowAddress : Text
  dealId : Text
  ticketAddress : Option Text
  commitmentDigest : Option Text
  deadline : Int
  deriving DecidableEq

structure RfqTranscriptAcknowledgement where
  makerId : Text
  accepted : Bool
  consistent : Bool
  reason : Option Text
  deriving DecidableEq

inductive DealStatus where
  | empty | funded | filled | settled | timedOut
  deriving DecidableEq

def DealStatus.toNat : DealStatus → Nat
  | .empty => 0
  | .funded => 1
  | .filled => 2
  | .settled => 3
  | .timedOut => 4

def dealStatuses : List DealStatus := [.empty, .funded, .filled, .settled, .timedOut]

inductive DealStage where
  | empty | funded | filled | settled | timedOut | expired
  deriving DecidableEq

structure RfqLocalDealObservation where
  dealId : Text
  escrowAddress : Text
  status : DealStatus
  stage : DealStage
  observedAt : Int
  legAToken : Option Text
  legAAmount : Option Text
  legBToken : Option Text
  legBTerms : Option Text
  legBAmount : Option Text
  deadline : Option Int
  ticket : Option Text
  commitmentDigest : Option Text
  deriving DecidableEq

inductive EvidenceStatus where
  | localNonAuthoritative | authoritative | stale | disagreement | reorged | quarantined
  deriving DecidableEq

structure RfqEvidenceAuthority where
  status : EvidenceStatus
  label : Text
  revision : Int
  observedAt : Int
  deriving DecidableEq

structure Bucket where
  min : Text
  max : Text
  deriving DecidableEq

structure RecoveryReadFailure where
  detail : Text
  observedAt : Int
  deriving DecidableEq

structure RfqLifecycleRecord where
  mode : Mode
  chainId : Text
  account : Text
  rfqId : Text
  state : RfqLifecycleState
  updatedAt : Int
  storageRevision : Int
  storagePredecessorRevision : Option Int
  terms : Option RfqExactTerms
  selectedQuote : Option RfqSelectedQuote
  settlement : Option RfqSettlementIdentity
  attempts : Attempts
  latestObservation : Option RfqLocalDealObservation
  evidenceAuthority : RfqEvidenceAuthority
  requestDigest : Option Text
  quoteExpiresAt : Option Int
  reservationExpiresAt : Option Int
  transactionHash : Option Text
  bucket : Option Bucket
  takerCommitment : Option Text
  takerSigningKey : Option Text
  fills : Option (List RfqV3Fill)
  takeTransactionHash : Option Text
  transcriptAcknowledgements : Option (List RfqTranscriptAcknowledgement)
  reason : Option Text
  /-- `recoverySource` is `"server-derived"`. -/
  serverDerived : Bool
  recoveryReadFailure : Option RecoveryReadFailure
  restoredFromBackup : Bool
  /-- This very object is in `persistedStorageRevisions`, with its own revision. -/
  persisted : Bool
  deriving DecidableEq

/-! ## Successors -/

def markRfqLifecyclePersisted (record : RfqLifecycleRecord) : RfqLifecycleRecord :=
  { record with persisted := true }

def finalizeRfqLifecycleForStorage (record : RfqLifecycleRecord) : RfqLifecycleRecord :=
  { record with storagePredecessorRevision := none, persisted := false }

/-- A `Partial` record: the fields that are given. A field that may be missing is given as a value
or as `undefined`. -/
structure LifecyclePatch where
  mode : Option Mode := none
  state : Option RfqLifecycleState := none
  updatedAt : Option Int := none
  terms : Option (Option RfqExactTerms) := none
  selectedQuote : Option (Option RfqSelectedQuote) := none
  settlement : Option (Option RfqSettlementIdentity) := none
  attempts : Option Attempts := none
  latestObservation : Option (Option RfqLocalDealObservation) := none
  evidenceAuthority : Option RfqEvidenceAuthority := none
  requestDigest : Option (Option Text) := none
  quoteExpiresAt : Option (Option Int) := none
  reservationExpiresAt : Option (Option Int) := none
  transactionHash : Option (Option Text) := none
  bucket : Option (Option Bucket) := none
  takerCommitment : Option (Option Text) := none
  takerSigningKey : Option (Option Text) := none
  fills : Option (Option (List RfqV3Fill)) := none
  takeTransactionHash : Option (Option Text) := none
  transcriptAcknowledgements : Option (Option (List RfqTranscriptAcknowledgement)) := none
  reason : Option (Option Text) := none
  serverDerived : Option Bool := none
  recoveryReadFailure : Option (Option RecoveryReadFailure) := none
  restoredFromBackup : Option Bool := none

/-- `{ ...record, ...patch }` -/
def LifecyclePatch.apply (patch : LifecyclePatch) (record : RfqLifecycleRecord) :
    RfqLifecycleRecord :=
  { record with
    mode := patch.mode.getD record.mode
    state := patch.state.getD record.state
    updatedAt := patch.updatedAt.getD record.updatedAt
    terms := patch.terms.getD record.terms
    selectedQuote := patch.selectedQuote.getD record.selectedQuote
    settlement := patch.settlement.getD record.settlement
    attempts := patch.attempts.getD record.attempts
    latestObservation := patch.latestObservation.getD record.latestObservation
    evidenceAuthority := patch.evidenceAuthority.getD record.evidenceAuthority
    requestDigest := patch.requestDigest.getD record.requestDigest
    quoteExpiresAt := patch.quoteExpiresAt.getD record.quoteExpiresAt
    reservationExpiresAt := patch.reservationExpiresAt.getD record.reservationExpiresAt
    transactionHash := patch.transactionHash.getD record.transactionHash
    bucket := patch.bucket.getD record.bucket
    takerCommitment := patch.takerCommitment.getD record.takerCommitment
    takerSigningKey := patch.takerSigningKey.getD record.takerSigningKey
    fills := patch.fills.getD record.fills
    takeTransactionHash := patch.takeTransactionHash.getD record.takeTransactionHash
    transcriptAcknowledgements :=
      patch.transcriptAcknowledgements.getD record.transcriptAcknowledgements
    reason := patch.reason.getD record.reason
    serverDerived := patch.serverDerived.getD record.serverDerived
    recoveryReadFailure := patch.recoveryReadFailure.getD record.recoveryReadFailure
    restoredFromBackup := patch.restoredFromBackup.getD record.restoredFromBackup }

/-- The revision that a successor is based on. -/
def predecessorRevision (record : RfqLifecycleRecord) : Int :=
  if record.persisted = true then record.storageRevision
  else record.storagePredecessorRevision.getD record.storageRevision

def reviseRfqLifecycle (record : RfqLifecycleRecord) (patch : LifecyclePatch) :
    RfqLifecycleRecord :=
  { patch.apply record with
    storageRevision := predecessorRevision record + 1
    storagePredecessorRevision := some (predecessorRevision record)
    persisted := false }

def defaultEvidenceAuthority (now : Int) : RfqEvidenceAuthority where
  status := .localNonAuthoritative
  label := "Local devnet observation · not canonical settlement authority".toList
  revision := 0
  observedAt := now

end App20.Rfq
