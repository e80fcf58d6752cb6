import App20.Rfq.Transition

/-!
# Attempts

An attempt is persisted before it is submitted, and updated as its outcome becomes known. A take is
confirmed or reverted from what was observed of it.

* `begin_ok`, `begin_eq`, `update_ok`: what a record says after an attempt was begun or updated.
* `confirm_ok`, `revert_ok`: how a take ends.
-/

namespace App20.Rfq

open App20.Lib App20.Domain

variable (host : Host)

/-! ## A new attempt -/

/-- `allowedStates` -/
def attemptStates : Phase → List RfqLifecycleState
  | .funding => [.reviewing]
  | .fill => [.funded]
  | .claim => [.claimable]
  | .refund => [.refundable]
  | .reservationRelease => [.quoted, .reviewing, .cancelPending, .funded]
  | .take => [.reviewing]

/-- The outcome of the attempt is not known. -/
def AttemptState.isUnknown : AttemptState → Bool
  | .preparing | .walletBoundaryUnknown | .submittedUnknown => true
  | .confirmed | .reverted => false

def targetFits (phase : Phase) (target : Option AttemptTarget) : Bool :=
  match phase, target.map AttemptTarget.operation with
  | .reservationRelease, some (.requestReservations _) => true
  | .reservationRelease, some (.fundedSettlementExpiry ..) => true
  | .funding, some (.fundingTicket _) => true
  | .fill, some (.makerFill ..) => true
  | .take, some (.take ..) => true
  | .claim, none => true
  | .refund, none => true
  | _, _ => false

def newAttempt (attemptId : Text) (now : Int) (target : Option AttemptTarget) : PhaseAttempt where
  attemptId
  state := .preparing
  createdAt := now
  updatedAt := now
  transactionHash := none
  observation := none
  walletBoundary := none
  target

def beginRfqPhaseAttempt (record : RfqLifecycleRecord) (phase : Phase) (attemptId : Text) (now : Int)
    (target : Option AttemptTarget) : Except String RfqLifecycleRecord := do
  throwIf (¬ (record.mode = .v3 ↔ phase = .take))
    (phase.name ++ " is unavailable for RFQ " ++ record.mode.name ++ ".")
  assertRfqV3LifecycleBindings host record
  throwIf (phase = .take ∧ (record.restoredFromBackup = true ∨ given record.takerSigningKey = false))
    "RFQ v3 signing authority is unavailable; start a fresh request."
  throwIf (record.state ∉ attemptStates phase)
    (phase.name ++ " cannot begin while the RFQ is " ++ record.state.name ++ ".")
  let existing := record.attempts.get phase
  throwIf (∃ a ∈ existing, a.state = .confirmed)
    (phase.name ++ " is already confirmed and cannot be submitted again.")
  throwIf (phase = .take ∧ (∃ a ∈ existing, a.state = .reverted) ∧
      takeAttemptWasProvenNotSubmitted existing = false)
    "Take may retry only after it was proven not submitted before wallet entry."
  throwIf (∃ a ∈ existing, a.state = .reverted ∧ a.attemptId = attemptId)
    (phase.name ++ " retry requires a new deliberate attempt id.")
  throwIf (∃ a ∈ existing, a.state.isUnknown = true)
    (phase.name ++ " already has an unknown attempt; verify it before retrying.")
  let stamp ← checkedTimestamp now "now"
  throwIf (targetFits phase target = false)
    (phase.name ++ " requires its exact immutable attempt target.")
  let attemptId ← checkedText attemptId "attemptId" 512
  let revised := reviseRfqLifecycle record
    { attempts := some (record.attempts.set phase (newAttempt attemptId stamp target))
      updatedAt := some stamp }
  let next :=
    if phase = .take ∧ ∃ a ∈ existing, a.state = .reverted then
      { revised with takeTransactionHash := none }
    else revised
  assertRfqLifecycleAttemptTargets host next
  return next

/-! ## What became of it -/

/-- What an update can set. A field may be given as `undefined`. -/
structure AttemptPatch where
  transactionHash : Option (Option Text) := none
  observation : Option (Option Text) := none
  walletBoundary : Option (Option WalletBoundary) := none

def AttemptPatch.apply (patch : AttemptPatch) (attempt : PhaseAttempt) : PhaseAttempt :=
  { attempt with
    transactionHash := patch.transactionHash.getD attempt.transactionHash
    observation := patch.observation.getD attempt.observation
    walletBoundary := patch.walletBoundary.getD attempt.walletBoundary }

/-- A record with an updated attempt; the hash of a funding attempt or a take is its own too. -/
def withAttempt (record : RfqLifecycleRecord) (phase : Phase) (attempt : PhaseAttempt) (now : Int) :
    RfqLifecycleRecord :=
  let hash := if given attempt.transactionHash = true then some attempt.transactionHash else none
  reviseRfqLifecycle record
    { attempts := some (record.attempts.set phase attempt)
      transactionHash := if phase = .funding then hash else none
      takeTransactionHash := if phase = .take then hash else none
      updatedAt := some now }

def updateRfqPhaseAttempt (record : RfqLifecycleRecord) (phase : Phase) (state : AttemptState)
    (now : Int) (patch : AttemptPatch) : Except String RfqLifecycleRecord :=
  match record.attempts.get phase with
  | none => .error (phase.name ++ " has no persisted attempt.")
  | some current => do
    throwIf (current.state = .confirmed) (phase.name ++ " is already confirmed.")
    throwIf (state = .submittedUnknown ∧ given (patch.transactionHash.bind id) = false ∧
        given current.transactionHash = false)
      "A submitted-unknown attempt requires its transaction hash."
    throwIf (state = .walletBoundaryUnknown ∧
        ((patch.walletBoundary.bind id).or current.walletBoundary) ≠ some .entered)
      "A hashless unknown attempt requires durable wallet-boundary evidence."
    let stamp ← checkedTimestamp now "now"
    return withAttempt record phase { patch.apply current with state, updatedAt := stamp } stamp

/-! ## Takes -/

/-- A lock that was taken, with its amount as a number or as a text. -/
structure LockTaken where
  lockId : Text
  amountA : Int ⊕ Text

structure TakeObservation where
  tokenA : Text
  totalA : Int
  tokenB : Text
  totalB : Int
  fillCount : Int
  fillsDigest : Text
  lockTaken : Option (List LockTaken)

def quarantineRecord (record : RfqLifecycleRecord) (now : Int) (reason : Text) :
    RfqLifecycleRecord :=
  reviseRfqLifecycle record
    { state := some .quarantined, updatedAt := some now, reason := some (some reason) }

def observedLocks (locks : List LockTaken) : Except String (List (Text × Text)) :=
  locks.mapM fun lock => do
    let lockId ← canonicalLocalRfqId lock.lockId
    match lock.amountA with
    | .inl amount => return (lockId, decimal amount)
    | .inr amount =>
      let amount ← checkedDecimal amount "LockTaken amountA" true
      return (lockId, amount)

/-- Whatever is thrown counts as no match. -/
def lockEvidenceMatches (expected : List TakeFill) (locks : Option (List LockTaken)) : Bool :=
  match locks with
  | none => true
  | some locks =>
    match observedLocks locks with
    | .error _ => false
    | .ok observed =>
      decide (observed.length = expected.length) && decide (observed.map (·.1)).Nodup &&
        expected.all fun fill => observed.any fun lock =>
          decide (canonicalLocalRfqId fill.lockId = .ok lock.1 ∧ lock.2 = fill.amountA)

def confirmRfqV3Take (record : RfqLifecycleRecord) (take : TakeObservation) (now : Int) :
    Except String RfqLifecycleRecord := do
  throwIf (record.mode ≠ .v3 ∨ record.state ≠ .submissionUnknown ∨ record.terms = none ∨
      record.fills = none) "Only an unknown RFQ v3 Take can be confirmed."
  throwIf (¬ ∃ a ∈ record.attempts.take, reachedWallet a = true)
    "RFQ v3 Take confirmation requires a submitted or hashless wallet-boundary attempt."
  let target ← takeAttemptTargetFromLifecycle record
  let expected := target.expected
  if sameIdentity host take.tokenA expected.tokenA = false ∨ decimal take.totalA ≠ expected.totalA ∨
      sameIdentity host take.tokenB expected.tokenB = false ∨ decimal take.totalB ≠ expected.totalB ∨
      take.fillCount ≠ expected.fills.length then
    return quarantineRecord record now
      "Observed Take totals contradict the persisted exact v3 fills.".toList
  else
    match host.fillsDigest (expected.fills.map fun fill => (fill.lockId, decimalValue fill.amountA))
      with
    | none => .error "The digest of the fills cannot be computed."
    | some digest =>
      if sameIdentity host take.fillsDigest digest = false ∨
          lockEvidenceMatches expected.fills take.lockTaken = false then
        return quarantineRecord record now
          "Observed Take fill composition contradicts the persisted exact v3 fills.".toList
      else do
        let confirmed ← updateRfqPhaseAttempt record .take .confirmed now
          { observation := some (some "Exact Take record observed on local devnet.".toList) }
        transitionRfqLifecycle host confirmed .settled now {}

def revertRfqV3Take (record : RfqLifecycleRecord) (now : Int) (observation : Text) :
    Except String RfqLifecycleRecord := do
  throwIf (record.mode ≠ .v3 ∨ record.state ≠ .submissionUnknown)
    "Only an unknown RFQ v3 Take can be marked reverted."
  let reverted ← updateRfqPhaseAttempt record .take .reverted now
    { observation := some (some observation) }
  transitionRfqLifecycle host reverted .expired now
    { reason := some (some "take-reverted".toList) }

/-! ## What they say -/

variable {host}
variable {record next : RfqLifecycleRecord} {phase : Phase} {state : AttemptState} {now : Int}
  {attemptId : Text} {target : Option AttemptTarget} {patch : AttemptPatch}

theorem begin_ok (h : beginRfqPhaseAttempt host record phase attemptId now target = .ok next) :
    (record.mode = .v3 ↔ phase = .take) ∧ assertRfqV3LifecycleBindings host record = .ok () ∧
      (phase = .take → record.restoredFromBackup = false ∧ given record.takerSigningKey = true) ∧
      record.state ∈ attemptStates phase ∧ (∀ a ∈ record.attempts.get phase, a.state = .reverted ∧
        (phase = .take → takeAttemptWasProvenNotSubmitted (some a) = true)) ∧
      next.attempts = record.attempts.set phase (newAttempt attemptId now target) ∧
      assertRfqLifecycleAttemptTargets host next = .ok () := by
  simp only [beginRfqPhaseAttempt, checkedTimestamp, checkedText, bind_ok, throwIf_ok,
    exists_unit, pure_ok, not_not] at h
  obtain ⟨hphase, hbindings, hkey, hstate, hconfirmed, hproven, -, hunknown, _, ⟨-, rfl⟩, -, _,
    ⟨-, rfl⟩, htargets, rfl⟩ := h
  refine ⟨hphase, hbindings, fun htake => ?_, hstate, fun a ha => ?_, ?_, htargets⟩
  · have hnot := not_or.mp fun hor => hkey ⟨htake, hor⟩
    exact ⟨Bool.eq_false_iff.mpr hnot.1, Bool.not_eq_false _ ▸ hnot.2⟩
  · have hreverted : a.state = .reverted := by
      cases hs : a.state with
      | reverted => rfl
      | confirmed => exact absurd ⟨a, ha, hs⟩ hconfirmed
      | preparing | walletBoundaryUnknown | submittedUnknown =>
        exact absurd ⟨a, ha, by rw [hs]; rfl⟩ hunknown
    refine ⟨hreverted, fun htake => ?_⟩
    by_contra hnot
    refine hproven ⟨htake, ⟨a, ha, hreverted⟩, ?_⟩
    rw [Option.mem_def.mp ha]
    exact Bool.eq_false_iff.mpr hnot
  · split <;> rfl

theorem update_ok (h : updateRfqPhaseAttempt record phase state now patch = .ok next) :
    ∃ current ∈ record.attempts.get phase, current.state ≠ .confirmed ∧
      next = withAttempt record phase { patch.apply current with state, updatedAt := now } now := by
  unfold updateRfqPhaseAttempt at h
  cases hcurrent : record.attempts.get phase with
  | none =>
    rw [hcurrent] at h
    cases h
  | some current =>
    rw [hcurrent] at h
    simp only [checkedTimestamp, bind_ok, throwIf_ok, exists_unit, pure_ok] at h
    obtain ⟨hconfirmed, -, -, _, ⟨-, rfl⟩, rfl⟩ := h
    exact ⟨current, rfl, hconfirmed, rfl⟩

/-- A record with a new attempt; the hash of a take that is retried is forgotten. -/
def begun (record : RfqLifecycleRecord) (phase : Phase) (attemptId : Text) (now : Int)
    (target : Option AttemptTarget) : RfqLifecycleRecord :=
  let revised := reviseRfqLifecycle record
    { attempts := some (record.attempts.set phase (newAttempt attemptId now target))
      updatedAt := some now }
  if phase = .take ∧ ∃ a ∈ record.attempts.get phase, a.state = .reverted then
    { revised with takeTransactionHash := none }
  else revised

theorem begin_eq (h : beginRfqPhaseAttempt host record phase attemptId now target = .ok next) :
    next = begun record phase attemptId now target := by
  simp only [beginRfqPhaseAttempt, checkedTimestamp, checkedText, bind_ok, throwIf_ok,
    exists_unit, pure_ok] at h
  obtain ⟨-, -, -, -, -, -, -, -, _, ⟨-, rfl⟩, -, _, ⟨-, rfl⟩, -, rfl⟩ := h
  rfl

theorem begun_same (record : RfqLifecycleRecord) (phase : Phase) (attemptId : Text) (now : Int)
    (target : Option AttemptTarget) :
    (begun record phase attemptId now target).state = record.state ∧
      (begun record phase attemptId now target).storagePredecessorRevision =
        some (predecessorRevision record) := by
  unfold begun
  dsimp only
  split <;> exact ⟨rfl, rfl⟩

theorem confirm_ok {take : TakeObservation} (h : confirmRfqV3Take host record take now = .ok next) :
    record.mode = .v3 ∧ record.state = .submissionUnknown ∧
      ((∃ reason, next = quarantineRecord record now reason) ∨
        ∃ updated patch, updateRfqPhaseAttempt record .take .confirmed now patch = .ok updated ∧
          transitionRfqLifecycle host updated .settled now {} = .ok next) := by
  simp only [confirmRfqV3Take, bind_ok, throwIf_ok, exists_unit, not_or, not_not] at h
  obtain ⟨⟨hmode, hstate, -, -⟩, -, target, -, h⟩ := h
  refine ⟨hmode, hstate, ?_⟩
  split at h
  · cases h
    exact .inl ⟨_, rfl⟩
  · split at h
    · cases h
    · split at h
      · cases h
        exact .inl ⟨_, rfl⟩
      · simp only [bind_ok] at h
        obtain ⟨updated, hupdated, h⟩ := h
        exact .inr ⟨updated, _, hupdated, h⟩

theorem revert_ok {observation : Text} (h : revertRfqV3Take host record now observation = .ok next) :
    ∃ updated patch reason, updateRfqPhaseAttempt record .take .reverted now patch = .ok updated ∧
      transitionRfqLifecycle host updated .expired now { reason } = .ok next := by
  simp only [revertRfqV3Take, bind_ok, throwIf_ok, exists_unit] at h
  obtain ⟨-, updated, hupdated, h⟩ := h
  exact ⟨updated, _, _, hupdated, h⟩

end App20.Rfq
