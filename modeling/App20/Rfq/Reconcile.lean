import App20.Rfq.Attempts

/-!
# Reconciliation

What was observed of a deal on the chain is bound to the record's identity and exact terms, and the
record takes the phase that the deal is in. Whatever does not fit quarantines the record.

* `reconcile_unbound`, `reconcile_contradicted`, `reconcile_observed`: the outcome, or a quarantine
  with the reason.
-/

namespace App20.Rfq

open App20.Lib App20.Domain
open App20.Reservation (maxSafeInteger)

variable (host : Host)

/-! ## The observation -/

/-- `stages[status]` -/
def DealStatus.stage : DealStatus → DealStage
  | .empty => .empty
  | .funded => .funded
  | .filled => .filled
  | .settled => .settled
  | .timedOut => .timedOut

/-- `Number(value.status)` -/
def dealStatus (value : Option Json) : Except String DealStatus :=
  let number := match value with
    | none => none
    | some (.number n) => some n
    | some v => host.toNumber v
  match number with
  | some n =>
    if n < 0 then .error "Unknown local chain deal status."
    else match dealStatuses.drop n.toNat with
      | status :: _ => .ok status
      | [] => .error "Unknown local chain deal status."
  | none => .error "Unknown local chain deal status."

def observationFrom (value : Json) (now : Int) : Except String RfqLocalDealObservation := do
  let status ← dealStatus host (value.get? "status")
  let dealId ← textOf (value.get? "dealId") "dealId" 512
  let escrowAddress ← textOf (value.get? "escrowAddress") "escrowAddress" 512
  let observedAt ← checkedTimestamp now "now"
  if status = .empty then
    return ⟨dealId, escrowAddress, status, status.stage, observedAt, none, none, none, none, none,
      none, none, none⟩
  else do
    let legAToken ← ifDefined (value.get? "legAToken") fun v => textOf v "legAToken" 512
    let legAAmount ← ifDefined (value.get? "legAAmount") fun v => decimalOf v "legAAmount" false
    let legBToken ← ifDefined (value.get? "legBToken") fun v => textOf v "legBToken" 512
    let legBTerms ← ifDefined (value.get? "legBTerms") fun v => decimalOf v "legBTerms" false
    let legBAmount ← ifDefined (value.get? "legBAmount") fun v => decimalOf v "legBAmount" false
    let deadline ← ifDefined (value.get? "deadline") fun v => timestampOf v "deadline"
    let ticket ← ifDefined (value.get? "ticket") fun v => textOf v "ticket" 512
    let commitmentDigest ←
      ifDefined (value.get? "commitmentDigest") fun v => textOf v "commitmentDigest" 512
    return ⟨dealId, escrowAddress, status, status.stage, observedAt, legAToken, legAAmount,
      legBToken, legBTerms, legBAmount, deadline, ticket, commitmentDigest⟩

/-- `value && sameFelt(value, other)` -/
def givenAs (value : Option Text) (other : Text) : Bool :=
  value.any fun s => decide (s ≠ []) && sameFelt host s other

/-- The legs, the deadline and the ticket of a deal are those of the record. -/
def termsBound (terms : RfqExactTerms) (quote : RfqSelectedQuote)
    (settlement : RfqSettlementIdentity) (observation : RfqLocalDealObservation) : Bool :=
  givenAs host observation.legAToken terms.sellAddress &&
    decide (observation.legAAmount = some terms.sellAmount) &&
    givenAs host observation.legBToken terms.buyAddress &&
    decide (observation.legBTerms = some quote.buyAmount ∧
      observation.deadline = some settlement.deadline) && given observation.ticket &&
    (!given settlement.ticketAddress ||
      givenAs host observation.ticket (settlement.ticketAddress.getD []))

/-- An observation of the record's own deal, on its exact terms; the error is the reason for which a
record is quarantined. -/
def boundObservation (record : RfqLifecycleRecord) (value : Json) (now : Int) :
    Except String RfqLocalDealObservation :=
  if record.mode = .v3 then
    .error "RFQ v3 must reconcile through its exact Take observation."
  else
    match record.settlement, record.terms, record.selectedQuote with
    | some settlement, some terms, some quote =>
      match value with
      | .object fields => do
        let observation ← observationFrom host (.object fields) now
        throwIf (sameFelt host observation.dealId settlement.dealId = false ∨
            sameFelt host observation.escrowAddress settlement.escrowAddress = false)
          "Local chain observation does not match the persisted deal and escrow identity."
        throwIf (given settlement.commitmentDigest = true ∧
            observation.commitmentDigest ≠ settlement.commitmentDigest)
          "Local chain observation does not match the persisted commitment."
        throwIf (observation.status ≠ .empty ∧
            termsBound host terms quote settlement observation = false)
          "Local chain deal terms contradict the persisted RFQ settlement binding."
        throwIf ((observation.status = .filled ∨ observation.status = .settled) ∧
            observation.legBAmount ≠ some quote.buyAmount)
          "Observed fill amount contradicts the selected exact quote."
        return observation
      | _ => .error "Malformed local chain observation."
    | _, _, _ => .error
      "Local reconciliation requires persisted exact terms, selected quote, and settlement identity."

/-! ## The phase -/

/-- An attempt whose outcome was observed. Where none was made the observation stands for it, but
not for a funding attempt. -/
def confirmAttempt (attempts : Attempts) (phase : Phase) (label : String) (dealId : Text)
    (now : Int) : Attempts :=
  match attempts.get phase with
  | some attempt =>
    if attempt.state = .confirmed then attempts
    else attempts.set phase
      { attempt with state := .confirmed, updatedAt := now, observation := some label.toList }
  | none =>
    if phase = .funding then attempts
    else attempts.set phase
      { attemptId := "observed:".toList ++ (phase.name.toList ++ ':' :: dealId)
        state := .confirmed
        createdAt := now
        updatedAt := now
        transactionHash := none
        observation := some label.toList
        walletBoundary := none
        target := none }

def confirmedAttempts (attempts : Attempts) (status : DealStatus) (dealId : Text) (now : Int) :
    Attempts :=
  let funded := confirmAttempt attempts .funding "Exact funded deal observed on local devnet." dealId
    now
  let filled := confirmAttempt funded .fill "Exact maker fill observed on local devnet." dealId now
  match status with
  | .empty => attempts
  | .funded => funded
  | .filled => filled
  | .settled =>
    confirmAttempt filled .claim "Exact claim outcome observed on local devnet." dealId now
  | .timedOut =>
    confirmAttempt funded .refund "Exact timeout outcome observed on local devnet." dealId now

/-- The states that an empty deal contradicts. -/
def fundedStates : List RfqLifecycleState :=
  [.funded, .filled, .claimable, .settled, .refundable, .refunded]

def expiryObserved (record : RfqLifecycleRecord) : Bool :=
  record.latestObservation.any fun o => decide (o.stage = .expired)

def observedState (record : RfqLifecycleRecord) (status : DealStatus) :
    Except String RfqLifecycleState :=
  let state := record.state
  if (state = .settled ∧ status ≠ .settled) ∨ (state = .refunded ∧ status ≠ .timedOut) then
    .error "A non-authoritative local observation contradicts the persisted terminal outcome."
  else
    match status with
    | .empty =>
      if state ∈ fundedStates then
        .error "Browser lifecycle contradicts an empty local chain deal."
      else .ok state
    | .funded =>
      if state = .reviewing ∨ state = .submissionUnknown ∨ state = .funded ∨
          (state = .expired ∧ expiryObserved record = false) then .ok .funded
      else if state = .expired ∨ state = .refundable then .ok state
      else .error "Funded observation contradicts the browser lifecycle phase."
    | .filled => if state = .settled ∨ state = .refunded then .ok state else .ok .claimable
    | .settled => .ok .settled
    | .timedOut => .ok .refunded

def observedRecord (record : RfqLifecycleRecord) (observation : RfqLocalDealObservation)
    (state : RfqLifecycleState) (now : Int) : RfqLifecycleRecord :=
  let keepsExpiry := observation.status = .funded ∧ (state = .expired ∨ state = .refundable) ∧
    expiryObserved record = true
  reviseRfqLifecycle record
    { state := some state
      attempts := some (confirmedAttempts record.attempts observation.status observation.dealId now)
      latestObservation := some (if keepsExpiry then record.latestObservation else some observation)
      recoveryReadFailure := some none
      updatedAt := some now }

def reconcileRfqLifecycleWithLocalDeal (record : RfqLifecycleRecord) (value : Json) (now : Int) :
    RfqLifecycleRecord :=
  let outcome : Except String RfqLifecycleRecord := do
    let observation ← boundObservation host record value now
    let state ← observedState record observation.status
    return observedRecord record observation state now
  match outcome with
  | .ok next => next
  | .error reason => quarantineRecord record now reason.toList

/-! ## Other observations -/

def observeLocalSettlementExpiry (record : RfqLifecycleRecord) (expiredAt : Int) :
    Except String RfqLifecycleRecord :=
  match record.state, record.settlement with
  | .funded, some settlement => do
    let stamp ← checkedTimestamp expiredAt "expiredAt"
    throwIf (stamp < settlement.deadline)
      "Settlement expiry was not observed at or after its deadline."
    let kept (field : RfqLocalDealObservation → Option Text) :=
      (record.latestObservation.bind field).filter fun s => decide (s ≠ [])
    return reviseRfqLifecycle record
      { state := some .refundable
        latestObservation := some (some
          { dealId := settlement.dealId
            escrowAddress := settlement.escrowAddress
            status := .funded
            stage := .expired
            observedAt := stamp
            legAToken := kept (·.legAToken)
            legAAmount := kept (·.legAAmount)
            legBToken := kept (·.legBToken)
            legBTerms := kept (·.legBTerms)
            legBAmount := kept (·.legBAmount)
            deadline := some settlement.deadline
            ticket := settlement.ticketAddress.filter fun s => decide (s ≠ [])
            commitmentDigest := none })
        updatedAt := some stamp }
  | _, _ => .error "Only a confirmed funded deal can observe settlement expiry."

def applyRfqAuthoritySignal (record : RfqLifecycleRecord) (signal : RfqEvidenceAuthority) :
    Except String RfqLifecycleRecord := do
  throwIf (signal.revision ≤ record.evidenceAuthority.revision)
    "Evidence authority revision must increase."
  if signal.status = .reorged then do
    throwIf (record.state ≠ .settled ∧ record.state ≠ .refunded)
      "Only a terminal observed outcome can be marked reorged."
    return reviseRfqLifecycle record
      { state := some .reorged
        evidenceAuthority := some signal
        updatedAt := some signal.observedAt
        reason := some (some "Authority reported canonical membership loss.".toList) }
  else
    return reviseRfqLifecycle record
      { evidenceAuthority := some signal, updatedAt := some signal.observedAt }

/-! ## The outcome -/

variable {host}
variable {record : RfqLifecycleRecord} {value : Json} {now : Int}
  {observation : RfqLocalDealObservation} {state : RfqLifecycleState} {reason : String}

theorem reconcile_unbound (h : boundObservation host record value now = .error reason) :
    reconcileRfqLifecycleWithLocalDeal host record value now =
      quarantineRecord record now reason.toList := by
  unfold reconcileRfqLifecycleWithLocalDeal
  rw [h]
  rfl

theorem reconcile_contradicted (h : boundObservation host record value now = .ok observation)
    (hstate : observedState record observation.status = .error reason) :
    reconcileRfqLifecycleWithLocalDeal host record value now =
      quarantineRecord record now reason.toList := by
  unfold reconcileRfqLifecycleWithLocalDeal
  simp only [h, ok_bind, hstate]
  rfl

theorem reconcile_observed (h : boundObservation host record value now = .ok observation)
    (hstate : observedState record observation.status = .ok state) :
    reconcileRfqLifecycleWithLocalDeal host record value now =
      observedRecord record observation state now := by
  unfold reconcileRfqLifecycleWithLocalDeal
  simp only [h, ok_bind, hstate]
  rfl

end App20.Rfq
