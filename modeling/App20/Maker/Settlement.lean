import App20.Maker.Inventory

/-!
# Locks in flight

What a maker node does with a lock after its first transaction: it confirms and signs the quote,
refreshes the lock from the chain, submits its settlement and reconciles what it has submitted,
lets an operator resolve it, and records the outcome that an authority reports.

Each of these runs in turns: between two turns it waits for an answer from outside, or for its
transaction on the lock. `LockTx` are the transactions and `Phase` the points at which it waits.
-/

namespace App20.Maker

open App20.Lib App20.Lib.Exec App20.Domain App20.Intents
open App20.Reservation (ReconciliationOutcome)

/-! ## Transactions on one lock -/

def LockState.name : LockState → String
  | .locking => "locking"
  | .opened => "open"
  | .taken => "taken"
  | .expired => "expired"
  | .settling => "settling"
  | .reconcilePending => "reconcile-pending"
  | .settlementUnknown => "settlement-unknown"
  | .settled => "settled"
  | .quarantined => "quarantined"

/-- A digest as it is computed: `0x` and 64 digits. -/
structure Digest where
  text : Text
  hex : isHex32 text = true

inductive LockFailure where
  | reverted
  | contradiction
  | pending (transactionHash : Option Text)

structure V3ReconciliationTarget where
  rfqDigest : Text
  rfqFelt : Text
  lockId : Text
  quoteDigest : Text
  tokenA : Text
  tokenB : Text
  takenA : Int
  takenB : Int
  transactionHash : Text
  authorityRevision : Int
  idempotencyKey : Text

/-- The transactions on a lock. A version that was made of an earlier one comes with the version
that was read. -/
inductive LockTx where
  | confirm (confirmed : StoredLock)
  | abandon (failure : LockFailure)
  | sign (confirmed : StoredLock) (signature : Text) (quoteDigest : Digest)
  | convert (action : SettlementAction)
  | failure (pending : Pending) (clears : Option StoredLock)
  | quarantine
  | refresh (read exact : StoredLock)
  | submit (action : SettlementAction)
  | persist (action : SettlementAction) (attempt : Int) (transactionHash : Text)
  | resolve (reason : Text)
  | terminal (target : V3ReconciliationTarget) (authorityDigest : Text) (chain : OnChainLock)

/-- What a transaction writes, and what it returns. -/
inductive LockWrite where
  | keep
  | put (record : StoredLock)
  | remove
  /-- The version is written, and the caller gets none. -/
  | refuse (record : StoredLock)

def LockWrite.result : LockWrite → Option StoredLock
  | .put record => some record
  | .keep | .remove | .refuse _ => none

def LockWrite.apply (lockId : Text) (locks : Locks) : LockWrite → Locks
  | .keep => locks
  | .put record | .refuse record => locks.put record
  | .remove => locks.erase lockId

/-- A new version of a lock that is not terminal; other locks are left alone. -/
def unlessTerminal (current : Option StoredLock)
    (version : StoredLock → Except MakerError StoredLock) : Except MakerError LockWrite :=
  match current with
  | none => .ok .keep
  | some r => if r.state.Terminal then .ok .keep else (version r).map .put

def submittedVersion (r : StoredLock) (action : SettlementAction) (transactionHash : Option Text)
    (now : Int) : StoredLock :=
  let attempt := r.settlementAttemptCount.getD 0 + 1
  { r with
    state := .settlementUnknown, priorState := some (priorLockState r now)
    reconciliationFailures := some 0, nextReconciliationAt := none
    reason := some "settlement-outcome-unknown".toList
    settlementAttemptCount := some attempt
    settlementAttempt := some ⟨action, attempt, now, transactionHash⟩, settlingAction := none }

def persistedVersion (r : StoredLock) (a : SettlementAttempt) (transactionHash : Text) :
    StoredLock :=
  let r := { r with settlementAttempt := some { a with transactionHash := some transactionHash } }
  match a.action with
  | .proceeds => { r with proceedsTxHash := some transactionHash }
  | .release => { r with releaseTxHash := some transactionHash }

def resolvedVersion (r : StoredLock) (reason : Text) (now : Int) : StoredLock :=
  { r with
    state := .reconcilePending, priorState := some (priorLockState r now)
    reconciliationFailures := some 0, nextReconciliationAt := some now
    reason := some "operator-reviewed-resolution".toList, quarantinedAt := none
    operatorResolution := some ⟨reason, now⟩, settlingAction := none }

/-- The record disagrees with the target of a terminal reconciliation, or is past it. -/
def terminalMismatch (r : StoredLock) (target : V3ReconciliationTarget) : Prop :=
  r.state = .quarantined ∨ r.rfqDigest ≠ target.rfqDigest ∨ r.rfqFelt ≠ target.rfqFelt ∨
  r.quoteDigest ≠ some target.quoteDigest ∨ r.tokenA ≠ target.tokenA ∨
  r.tokenB ≠ target.tokenB ∨ (r.takenA ≠ 0 ∧ r.takenA ≠ target.takenA) ∨
  (r.takenB ≠ 0 ∧ r.takenB ≠ target.takenB) ∨
  (r.terminalReconciliation.any fun t => target.authorityRevision ≤ t.authorityRevision) = true

instance (r : StoredLock) (target : V3ReconciliationTarget) :
    Decidable (terminalMismatch r target) := inferInstanceAs (Decidable (_ ∨ _))

/-- The record as the chain has it, unless its attempt is not complete there. -/
def reconciledRecord (r : StoredLock) (chain : OnChainLock) (now : Int) :
    Except MakerError StoredLock :=
  if r.settlementAttempt.any fun a => !settlementActionComplete a.action chain then .ok r
  else lockStateFromChain r chain now

def terminalRecord (r : StoredLock) (target : V3ReconciliationTarget) (authorityDigest : Text)
    (chain : OnChainLock) (now : Int) : Except MakerError StoredLock := do
  let reconciled ← reconciledRecord r chain now
  canonicalStoredLock { reconciled with
    takenA := target.takenA, takenB := target.takenB
    terminalReconciliation := some ⟨target.idempotencyKey, authorityDigest,
      target.authorityRevision, target.transactionHash, now⟩ }

namespace LockTx

def edit (lockId : Text) (now : Int) (current : Option StoredLock) :
    LockTx → Except MakerError LockWrite
  | confirm confirmed =>
    match current with
    | some r =>
      if r.state = .locking then .ok (.put confirmed)
      else .error (.node "Durable lock changed during on-chain submission.")
    | none => .error (.node "Durable lock changed during on-chain submission.")
  | abandon why =>
    match current, why with
    | none, _ => .ok .keep
    | some _, .reverted => .ok .remove
    | some r, .contradiction => (quarantinedLock r now).map .put
    | some r, .pending transactionHash =>
      (lockWithReconciliationFailure
        { r with lockTxHash := transactionHash.getD r.lockTxHash } now .reconcile).map .put
  | sign confirmed signature quoteDigest =>
    match current with
    | some r =>
      if r.state.Terminal ∨ r.lockTxHash ≠ confirmed.lockTxHash then
        .error (.node "Confirmed lock changed before quote signing completed.")
      else .ok (.put { r with signature := some signature, quoteDigest := some quoteDigest.text })
    | none => .error (.node "Confirmed lock changed before quote signing completed.")
  | convert action =>
    unlessTerminal current fun r =>
      canonicalStoredLock (submittedVersion r action
        (match action with | .proceeds => r.proceedsTxHash | .release => r.releaseTxHash) now)
  | failure pending clears =>
    unlessTerminal current fun r =>
      lockWithReconciliationFailure
        (if clears.isSome then { r with settlementAttempt := none } else r) now pending
  | quarantine =>
    match current with
    | some r => if r.state ≠ .settled then (quarantinedLock r now).map .put else .ok .keep
    | none => .ok .keep
  | refresh _ exact => unlessTerminal current fun _ => .ok exact
  | submit action =>
    unlessTerminal current fun r =>
      canonicalStoredLock { submittedVersion r action none now with quarantinedAt := none }
  | persist action attempt transactionHash =>
    match current with
    | none => .ok .keep
    | some r =>
      match r.settlementAttempt with
      | none => .ok .keep
      | some a =>
        if r.state = .settlementUnknown ∧ a.action = action ∧ a.attempt = attempt then
          (canonicalStoredLock (persistedVersion r a transactionHash)).map .put
        else .ok .keep
  | resolve reason =>
    match current with
    | none =>
      .error (.node ("Maker refused unknown lock id " ++ String.ofList lockId ++ "."))
    | some r =>
      if r.state = .quarantined then
        (canonicalStoredLock (resolvedVersion r reason now)).map .put
      else
        .error (.node
          ("Lock state " ++ r.state.name ++ " does not match expectedState quarantined."))
  | terminal target authorityDigest chain =>
    match current with
    | none => .ok .keep
    | some r =>
      if terminalMismatch r target then (quarantinedLock r now).map .refuse
      else (terminalRecord r target authorityDigest chain now).map .put

def draft (tx : LockTx) (lockId : Text) (now : Int) : BooksM (Option StoredLock) := do
  let b ← get
  let write ← lift (tx.edit lockId now (b.locks.get? lockId))
  set { b with locks := write.apply lockId b.locks }
  return write.result

end LockTx

/-! ## Phases -/

inductive ReceiptStatus where
  | pending | succeeded | reverted
  deriving DecidableEq

structure MakerTransactionReceipt where
  transactionHash : Text
  status : ReceiptStatus

structure V3TerminalRequest where
  target : V3ReconciliationTarget
  attemptId : Text
  authorityDigest : Text
  authorityRevision : Int
  outcome : ReconciliationOutcome
  settlementTransactionHash : Option Text

/-- What follows a transaction that is done. -/
inductive After where
  | finish
  | ready (record : StoredLock) (chain : OnChainLock)
  | converted
  | submitted (record : StoredLock) (action : SettlementAction) (expectedPayout : Int)
  | persisted
  | pending
  | confirmed (record : StoredLock)

/-- Where an operation on a lock waits. -/
inductive Phase where
  | done
  /-- Before the list of locks is read. -/
  | listing
  /-- Before the next lock of the list. -/
  | next
  | commit (tx : LockTx) (after : After)
  | locking (record : StoredLock)
  | signing (confirmed : StoredLock)
  | reading (record : StoredLock)
  | receipt (record : StoredLock)
  | unknown (record : StoredLock) (receipt : Option ReceiptStatus)
  /-- Before the settlement is handed to the wallet. -/
  | handing (record : StoredLock) (action : SettlementAction) (expectedPayout attempt : Int)
  | handed (record : StoredLock) (action : SettlementAction) (attempt : Int)
  | resetting (record : StoredLock)
  | reconciling (request : V3TerminalRequest) (initial : StoredLock)

/-- What goes on once a lock is ready: nothing in recovery, and in a settlement the actions that
are left. -/
inductive Stage where
  | recover | settle | proceeds | release
  deriving DecidableEq

/-- What comes from outside. -/
inductive Answer where
  | locked (ticket transactionHash : Text) (lock : OnChainLock)
  | lockReverted
  | lockUnknown (transactionHash : Option Text)
  | signed (signature : Text) (quoteDigest : Digest)
  | refused
  | chain (lock : Option OnChainLock)
  | receipt (receipt : Option MakerTransactionReceipt)
  | submitted (transactionHash : Text)
  | reverted
  | unknown (transactionHash : Option Text)

/-- An operation in flight, with the locks that are still to come. -/
structure Flow where
  lockId : Text
  now : Int
  stage : Stage
  queue : List Text
  phase : Phase

/-! ## `#refreshLock` and `#reconcileSettlementUnknown` -/

def beginUnknown (record : StoredLock) : Phase :=
  if record.settlementAttempt.any fun a => a.transactionHash.isSome then .receipt record
  else .unknown record none

def continueRefresh (record : StoredLock) : Phase :=
  if record.settlementAttempt.isSome then beginUnknown record else .reading record

def beginRefresh (locks : Locks) (lockId : Text) (now : Int) : Phase :=
  match locks.get? lockId with
  | none => .next
  | some record =>
    if record.state.Terminal ∨ record.nextReconciliationAt.any (fun n => decide (now < n)) then .next
    else if record.state = .settling then
      match record.settlingAction with
      | none => .commit (.failure .reconcile none) .finish
      | some action => .commit (.convert action) .converted
    else continueRefresh record

def refreshCandidate (record : StoredLock) (chain : OnChainLock) (now : Int) :
    Except MakerError StoredLock :=
  if priorLockState record now = .locking ∧ sameFelt record.ticket "0x0".toList = true ∧
      chain.status = .opened then
    canonicalStoredLock { record with ticket := chain.ticket }
  else .ok record

/-- A contradiction quarantines the lock, and any other error of a chain read is a failure. -/
def afterChainError (e : MakerError) (clears : Option StoredLock) : Phase :=
  match e with
  | .contradiction _ => .commit .quarantine .finish
  | .node _ => .commit (.failure .reconcile clears) .finish

def writeExact (read exact : StoredLock) (chain : OnChainLock) (retry : Bool) : Phase :=
  .commit (.refresh read exact)
    (if retry ∨ exact.state = .settled then .finish else .ready exact chain)

def refreshed (record : StoredLock) (chain : Option OnChainLock) (now : Int) : Phase :=
  match chain with
  | none => .commit (.failure .reconcile none) .finish
  | some chain =>
    if chain.status = .empty ∧ priorLockState record now = .locking then
      .commit (.failure .reconcile none) .finish
    else
      match (do
        let candidate ← refreshCandidate record chain now
        let bound ← requireBoundChainLock chain candidate
        return (candidate, bound)) with
      | .error e => afterChainError e none
      | .ok (candidate, bound) =>
        match lockStateFromChain candidate bound now with
        | .error _ => .done
        | .ok exact => writeExact record exact bound false

def canonicalSettlementReceipt (receipt : MakerTransactionReceipt) (expected : Text) :
    Except MakerError MakerTransactionReceipt := do
  let transactionHash ←
    requireFeltText receipt.transactionHash "settlement receipt transaction hash"
  throwIf (sameFelt transactionHash expected = false)
    (.contradiction "Settlement receipt does not match the durable transaction hash.")
  return ⟨transactionHash, receipt.status⟩

def receiptRead (record : StoredLock) (receipt : Option MakerTransactionReceipt) : Phase :=
  match receipt, record.settlementAttempt.bind SettlementAttempt.transactionHash with
  | some receipt, some expected =>
    match canonicalSettlementReceipt receipt expected with
    | .ok canonical => .unknown record (some canonical.status)
    | .error (.contradiction _) => .commit .quarantine .finish
    | .error (.node _) => .unknown record none
  | _, _ => .unknown record none

/-- The chain binds the lock, or contradicts it, or could not be read. -/
inductive Bound where
  | bound (chain : OnChainLock)
  | contradicted
  | unread

def bindChain (record : StoredLock) (chain : Option OnChainLock) : Bound :=
  match chain with
  | none => .unread
  | some chain =>
    match requireBoundChainLock chain record with
    | .ok bound => .bound bound
    | .error (.contradiction _) => .contradicted
    | .error (.node _) => .unread

def unknownRead (record : StoredLock) (receipt : Option ReceiptStatus)
    (chain : Option OnChainLock) (now : Int) : Phase :=
  match bindChain record chain, record.settlementAttempt with
  | .contradicted, _ => .commit .quarantine .finish
  | .unread, _ =>
    if receipt = some .reverted then .commit (.failure .reconcile (some record)) .finish
    else .commit (.failure .settlement none) .finish
  | .bound chain, attempt =>
    let actionComplete := attempt.any fun a => settlementActionComplete a.action chain
    if (receipt = some .succeeded ∧ actionComplete = false) ∨
        (receipt = some .reverted ∧ actionComplete = true) then
      .commit .quarantine .finish
    else if actionComplete = true ∨ receipt = some .reverted then
      match lockStateFromChain record chain now with
      | .error _ => .done
      | .ok exact => writeExact record exact chain (receipt = some .reverted)
    else .commit (.failure .settlement none) .finish

/-! ## `#submitSettlementAction` -/

def knownHash (transactionHash : Option Text) : Option Text :=
  match transactionHash with
  | none => none
  | some hash =>
    match requireFeltText hash "transaction hash" with
    | .error _ => none
    | .ok hash => if parseBigInt hash = some 0 then none else some hash

/-- `#resetKnownRevertedSettlement`, from its reading of the locks on. -/
def beginReset (locks : Locks) (lockId : Text) : Phase :=
  match locks.get? lockId with
  | none => .next
  | some record => if record.settlementAttempt.isSome then .resetting record else .next

def resetRead (record : StoredLock) (chain : Option OnChainLock) (now : Int) : Phase :=
  match bindChain record chain, record.settlementAttempt with
  | .contradicted, _ => .commit .quarantine .finish
  | .unread, _ => .commit (.failure .reconcile (some record)) .finish
  | .bound chain, attempt =>
    if attempt.any fun a => settlementActionComplete a.action chain then
      .commit .quarantine .finish
    else
      match lockStateFromChain record chain now with
      | .error _ => .done
      | .ok exact => writeExact record exact chain true

/-- The submission of an action that is left, or the next lock. -/
def submitLeft (record : StoredLock) (chain : OnChainLock) : Phase × Stage :=
  if chain.collateralReleased then (.next, .release)
  else (.commit (.submit .release) (.submitted record .release chain.remainingB), .release)

/-- What goes on once a lock is ready. -/
def proceed (stage : Stage) (record : StoredLock) (chain : OnChainLock) (now : Int) :
    Phase × Stage :=
  match stage with
  | .recover => (.next, .recover)
  | .settle =>
    if now < record.expiry then (.next, .settle)
    else if chain.proceedsSettled then submitLeft record chain
    else (.commit (.submit .proceeds) (.submitted record .proceeds chain.earnedA), .proceeds)
  | .proceeds => submitLeft record chain
  | .release => (.next, .release)

/-! ## `quoteV3` after its first transaction -/

def confirmedRecord (record : StoredLock) (ticket transactionHash : Text) (lock : OnChainLock)
    (now : Int) : Except MakerError StoredLock := do
  let ticket ← requireFeltText ticket "lock ticket"
  let lockTxHash ← requireFeltText transactionHash "lock transaction hash"
  throwIf (parseBigInt ticket = some 0 ∨ parseBigInt lockTxHash = some 0)
    (.node "Confirmed lock omitted its ticket or transaction hash.")
  let opened ← canonicalStoredLock { record with ticket, lockTxHash, state := .opened }
  let confirmed ← lockStateFromChain opened lock now
  throwIf (confirmed.state ≠ .opened ∨ confirmed.takenA ≠ 0 ∨ confirmed.takenB ≠ 0)
    (.node "New on-chain lock was not fully collateralized and untouched.")
  return confirmed

def lockAnswered (record : StoredLock) (now : Int) : Answer → Phase
  | .locked ticket transactionHash lock =>
    match confirmedRecord record ticket transactionHash lock now with
    | .ok confirmed => .commit (.confirm confirmed) (.confirmed confirmed)
    | .error (.contradiction _) => .commit (.abandon .contradiction) .finish
    | .error (.node _) => .commit (.abandon (.pending none)) .finish
  | .lockReverted => .commit (.abandon .reverted) .finish
  | .lockUnknown transactionHash =>
    .commit (.abandon (.pending (knownHash transactionHash))) .finish
  | _ => .locking record

/-! ## Terminal reconciliation -/

def canonicalV3Target (input : V3ReconciliationTarget) :
    Except MakerError V3ReconciliationTarget := do
  let rfqDigest ← requireHex32 input.rfqDigest "v3 reconciliation rfqDigest"
  let rfqFelt ← requireFeltText input.rfqFelt "v3 reconciliation rfqFelt"
  let lockId ← requireFeltText input.lockId "v3 reconciliation lockId"
  let quoteDigest ← requireHex32 input.quoteDigest "v3 reconciliation quoteDigest"
  let tokenA ← requireFeltText input.tokenA "v3 reconciliation tokenA"
  let tokenB ← requireFeltText input.tokenB "v3 reconciliation tokenB"
  let takenA ← requireAmount input.takenA "v3 reconciliation takenA"
  let takenB ← requireAmount input.takenB "v3 reconciliation takenB"
  let transactionHash ← requireFeltText input.transactionHash "v3 reconciliation transaction hash"
  let authorityRevision ←
    requireTimestamp input.authorityRevision "v3 reconciliation authority revision"
  let idempotencyKey ← requireText input.idempotencyKey "v3 reconciliation idempotency key"
  return ⟨rfqDigest, rfqFelt, lockId, quoteDigest, tokenA, tokenB, takenA, takenB, transactionHash,
    authorityRevision, idempotencyKey⟩

/-- The checks on the request itself. -/
def canonicalV3Request (input : V3TerminalRequest) (now : Int) :
    Except MakerError V3TerminalRequest := do
  let target ← canonicalV3Target input.target
  let attemptId ← requireText input.attemptId "terminal reconciliation attemptId"
  let authorityDigest ←
    requireHex32 input.authorityDigest "terminal reconciliation authorityDigest"
  let authorityRevision ←
    requireTimestamp input.authorityRevision "terminal reconciliation authorityRevision"
  let transactionHash ←
    requireFeltText (input.settlementTransactionHash.getD []) "settlementTransactionHash"
  let _ ← requireTimestamp now "now"
  throwIf (input.outcome ≠ .settled)
    (.node "Maker v3 terminal reconciliation only accepts settled Take authority.")
  throwIf (target.idempotencyKey ≠ attemptId ∨ target.authorityRevision ≠ authorityRevision ∨
      target.transactionHash ≠ transactionHash)
    (.node "Maker v3 reconciliation metadata does not match its target.")
  return ⟨target, attemptId, authorityDigest, authorityRevision, input.outcome,
    some transactionHash⟩

/-- The record and the target agree on everything that neither the chain nor time changes. -/
def sameV3Binding (r : StoredLock) (target : V3ReconciliationTarget) : Prop :=
  r.rfqDigest = target.rfqDigest ∧ r.rfqFelt = target.rfqFelt ∧
  r.quoteDigest = some target.quoteDigest ∧ r.tokenA = target.tokenA ∧ r.tokenB = target.tokenB

instance (r : StoredLock) (target : V3ReconciliationTarget) : Decidable (sameV3Binding r target) :=
  inferInstanceAs (Decidable (_ ∧ _))

def sameTerminal (r : StoredLock) (t : V3TerminalReconciliation) (request : V3TerminalRequest) :
    Prop :=
  t.idempotencyKey = request.target.idempotencyKey ∧ t.authorityDigest = request.authorityDigest ∧
  t.transactionHash = request.target.transactionHash ∧
  sameV3Binding r request.target ∧ r.takenA = request.target.takenA ∧
  r.takenB = request.target.takenB

instance (r : StoredLock) (t : V3TerminalReconciliation) (request : V3TerminalRequest) :
    Decidable (sameTerminal r t request) := inferInstanceAs (Decidable (_ ∧ _))

/-- `#reconcileV3AuthoritativeTerminal` up to its reading of the chain. -/
def beginTerminal (locks : Locks) (request : V3TerminalRequest) : Phase :=
  match locks.get? request.target.lockId with
  | none => .done
  | some initial =>
    let begin :=
      if initial.state = .quarantined then Phase.done
      else if sameV3Binding initial request.target then .reconciling request initial
      else .commit .quarantine .finish
    match initial.terminalReconciliation with
    | none => begin
    | some prior =>
      if request.target.authorityRevision < prior.authorityRevision then .done
      else if prior.authorityRevision = request.target.authorityRevision then
        if sameTerminal initial prior request then .done else .commit .quarantine .finish
      else begin

def terminalRead (request : V3TerminalRequest) (initial : StoredLock)
    (chain : Option OnChainLock) : Phase :=
  let target := request.target
  match bindChain initial chain with
  | .contradicted => .commit .quarantine .finish
  | .unread => .commit (.failure .reconcile none) .finish
  | .bound chain =>
    if chain.earnedA ≠ target.takenA ∨ initial.maxB - chain.remainingB ≠ target.takenB ∨
        (initial.takenA ≠ 0 ∧ initial.takenA ≠ target.takenA) ∨
        (initial.takenB ≠ 0 ∧ initial.takenB ≠ target.takenB) then
      .commit .quarantine .finish
    else .commit (.terminal target request.authorityDigest chain) .finish

/-! ## Turns -/

namespace Flow

/-- The next lock of the list is taken up, or the operation is over. -/
def advance (locks : Locks) (f : Flow) : Flow :=
  match f.phase, f.queue with
  | .next, [] => { f with phase := .done }
  | .next, lockId :: queue =>
    { f with
      lockId, queue, stage := if f.stage = .recover then .recover else .settle
      phase := beginRefresh locks lockId f.now }
  | .listing, _ =>
    { f with
      queue := (locks.entries.filter fun r => ¬ r.state.Terminal).map StoredLock.lockId
      phase := .next }
  | _, _ => f

/-- An answer comes in. An answer to another question changes nothing. -/
def answer (locks : Locks) (f : Flow) (a : Answer) : Flow :=
  let phase :=
    match f.phase, a with
    | .locking record, a => lockAnswered record f.now a
    | .signing confirmed, .signed signature quoteDigest =>
      match requireText signature "quote v3 signature" with
      | .ok signature => .commit (.sign confirmed signature quoteDigest) .finish
      | .error _ => .done
    | .signing _, .refused => .done
    | .reading record, .chain chain => refreshed record chain f.now
    | .receipt record, .receipt receipt => receiptRead record receipt
    | .unknown record receipt, .chain chain => unknownRead record receipt chain f.now
    | .handed _ action attempt, .submitted transactionHash =>
      match knownHash (some transactionHash) with
      | some hash => .commit (.persist action attempt hash) .persisted
      | none => .commit (.failure .settlement none) .finish
    | .handed _ _ _, .reverted => beginReset locks f.lockId
    | .handed _ action attempt, .unknown transactionHash =>
      match knownHash transactionHash with
      | some hash => .commit (.persist action attempt hash) .pending
      | none => .commit (.failure .settlement none) .finish
    | .resetting record, .chain chain => resetRead record chain f.now
    | .reconciling request initial, .chain chain => terminalRead request initial chain
    | phase, _ => phase
  { f with phase }

/-- The settlement is handed to the wallet. -/
def hand (f : Flow) : Flow :=
  match f.phase with
  | .handing record action _ attempt => { f with phase := .handed record action attempt }
  | _ => f

/-- The transaction is done, with its result, or has failed. -/
def committed (f : Flow) (after : After) (result : Except (Option MakerError) (Option StoredLock)) :
    Flow :=
  match after, result with
  | .finish, .ok _ => { f with phase := .next }
  | .ready record chain, .ok _ =>
    let (phase, stage) := proceed f.stage record chain f.now
    { f with phase, stage }
  | .converted, .ok (some record) => { f with phase := continueRefresh record }
  | .submitted record action expectedPayout, .ok (some r) =>
    { f with
      phase := .handing record action expectedPayout
        ((r.settlementAttempt.map SettlementAttempt.attempt).getD 0) }
  | .persisted, .ok (some record) => { f with phase := beginUnknown record }
  | .converted, .ok none | .submitted _ _ _, .ok none | .persisted, .ok none =>
    { f with phase := .next }
  | .pending, .ok _ => { f with phase := .commit (.failure .settlement none) .finish }
  | .confirmed record, .ok _ => { f with phase := .signing record }
  | .persisted, .error _ => { f with phase := .commit (.failure .settlement none) .finish }
  | .confirmed _, .error _ => { f with phase := .commit (.abandon (.pending none)) .finish }
  | _, .error _ => { f with phase := .done }

end Flow

end App20.Maker
