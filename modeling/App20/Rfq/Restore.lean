import App20.Rfq.Rows

/-!
# Restored records

What becomes of a row when it is read again: the record that it says if nothing contradicts it, a
quarantined one otherwise. A row that cannot be read leaves nothing but its scope.

* `restoredConsistent`: what a row must not contradict.
* `restoreRfqLifecycle`: the record, a quarantined one, or only its scope.
-/

namespace App20.Rfq

open App20.Lib App20.Domain

variable (host : Host)

structure RestoreContext where
  chainId : Text
  account : Text
  now : Int
  fromBackup : Bool

/-! ## Quarantine -/

def malformedLocalRecord : Text := "malformed-local-record".toList

def quarantine (context : RestoreContext) (reason rfqId : Text) :
    Except String RfqLifecycleRecord := do
  let chainId ← canonicalRfqChainId host context.chainId
  let account ← canonicalRfqAccount context.account
  return {
    mode := .v2
    chainId, account, rfqId
    state := .quarantined
    updatedAt := context.now
    storageRevision := 0
    storagePredecessorRevision := none
    terms := none
    selectedQuote := none
    settlement := none
    attempts := .empty
    latestObservation := none
    evidenceAuthority :=
      ⟨.quarantined, "Quarantined browser record · not settlement authority".toList, 0, context.now⟩
    requestDigest := none
    quoteExpiresAt := none
    reservationExpiresAt := none
    transactionHash := none
    bucket := none
    takerCommitment := none
    takerSigningKey := none
    fills := none
    takeTransactionHash := none
    transcriptAcknowledgements := none
    reason := some reason
    serverDerived := false
    recoveryReadFailure := none
    restoredFromBackup := false
    persisted := false }

def migratedId (row : Json) (context : RestoreContext) : Text :=
  let rfqId := match row.get? "rfqId" with
    | some (.string s) => if trim s = [] then "malformed-v1-record".toList else s
    | _ => "malformed-v1-record".toList
  if isLocalRfqChain host context.chainId = true then
    (canonicalLocalRfqId rfqId).toOption.getD malformedLocalRecord
  else rfqId

def migrateV1 (row : Json) (context : RestoreContext) : Except String RfqLifecycleRecord := do
  let rfqId := migratedId host row context
  let migrated ← quarantine host context
    ("Lifecycle v1 omitted exact terms and settlement bindings; it was migrated to v2 quarantine " ++
      "and no action was retried.").toList rfqId
  match row.get? "transactionHash" with
  | some (.string hash) =>
    if trim hash = [] then return migrated
    else
      return { migrated with
        transactionHash := some hash
        attempts := Attempts.empty.set .funding
          { attemptId := "migrated-v1:".toList ++ rfqId
            state := .submittedUnknown
            createdAt := context.now
            updatedAt := context.now
            transactionHash := some hash
            observation := some "Migrated hash requires manual verification.".toList
            walletBoundary := none
            target := none } }
  | _ => return migrated

/-! ## What a row must not contradict -/

def exactStates : List RfqLifecycleState :=
  [.quoted, .reviewing, .submissionUnknown, .funded, .filled, .claimable, .settled, .refundable,
    .refunded]

def settlementStates : List RfqLifecycleState :=
  [.submissionUnknown, .funded, .filled, .claimable, .settled, .refundable, .refunded]

/-- `targetMatchesRecord`: both validators pass, and a release target fits the state. -/
def restoredTargetsMatch (record : RfqLifecycleRecord) : Bool :=
  decide (assertRfqLifecycleAttemptTargets host record = .ok ()) &&
    decide (assertRfqV3LifecycleBindings host record = .ok ()) &&
    match ((record.attempts.get .reservationRelease).bind (·.target)).map
        AttemptTarget.operation with
    | some (.requestReservations _) => decide (record.state ∈ [.cancelPending, .cancelled])
    | some (.fundedSettlementExpiry ..) => decide (record.state ∈ [.funded, .refundable, .refunded])
    | _ => true

def identityBindingsOk (record : RfqLifecycleRecord) : Bool :=
  (record.selectedQuote.all fun quote => !given record.requestDigest ||
      decide (some quote.intentDigest = record.requestDigest)) &&
    record.settlement.all fun settlement => sameIdentity host settlement.dealId record.rfqId

/-- The public key of a signing key cannot be computed, which is thrown. -/
def keyUnreadable (record : RfqLifecycleRecord) : Bool :=
  decide (record.mode = .v3) && record.bucket.isSome && given record.takerCommitment &&
    decide (record.takerCommitment ≠ some "0x0".toList) &&
    record.takerSigningKey.any fun key =>
      decide (key ≠ "0x0".toList) && (host.takerPublicKeyFor key).isNone

/-- The totals of the fills fit the bucket and the exact terms. -/
def selectedTotalsOk (record : RfqLifecycleRecord) : Bool :=
  match record.fills, record.terms, record.settlement, record.bucket with
  | some fills, some terms, some settlement, some bucket =>
    let totalA := totalOf (fills.map (·.amountA))
    let totalB := totalOf (fills.map (·.amountB))
    decide (fills ≠ [] ∧ fills.length ≤ 4 ∧ settlement.version = .localnetV3 ∧
      given record.requestDigest = true ∧ decimalValue bucket.min ≤ totalA ∧
      totalA ≤ decimalValue bucket.max ∧ decimal totalA = terms.sellAmount ∧
      terms.buyAmount = some (decimal totalB) ∧
      (∀ minBuyAmount ∈ terms.minBuyAmount, decimalValue minBuyAmount ≤ totalB) ∧
      (∀ fill ∈ fills, fill.lockExpiresAt = settlement.deadline) ∧
      terms.rfqExpiresAt = settlement.deadline)
  | _, _, _, _ => false

def v3BindingsOk (record : RfqLifecycleRecord) : Bool :=
  decide (record.mode = .v2) || (v3KeysValid host record &&
      (decide (record.state = .draft) || given record.requestDigest) &&
      (decide (record.state ∉ v3SelectedStates) || selectedTotalsOk record))

def terminalInvariantOk (record : RfqLifecycleRecord) : Bool :=
  let status := record.latestObservation.map (·.status)
  if record.state = .settled then
    if record.mode = .v3 then
      (record.attempts.take.any fun a => decide (a.state = .confirmed) &&
        if given a.transactionHash = true then decide (record.takeTransactionHash = a.transactionHash)
        else decide (a.walletBoundary = some .entered ∧ record.takeTransactionHash = none)) &&
        record.takerSigningKey.isNone
    else
      decide (status = some .settled) && record.attempts.claim.any fun a => decide (a.state = .confirmed)
  else if record.state = .refunded then
    decide (status = some .timedOut) && record.attempts.refund.any fun a => decide (a.state = .confirmed)
  else if record.mode = .v3 ∧ record.state = .expired then
    record.takerSigningKey.isNone &&
      (decide (record.reason ≠ some "take-reverted".toList) ||
        record.attempts.take.any fun a => decide (a.state = .reverted) && reachedWallet a)
  else true

def retryInvariantOk (record : RfqLifecycleRecord) : Bool :=
  decide (record.mode ≠ .v3 ∨ record.state ≠ .reviewing) ||
    record.attempts.take.all (fun a => decide (a.state ≠ .reverted)) ||
    takeAttemptWasProvenNotSubmitted record.attempts.take

def activeAttempt (record : RfqLifecycleRecord) : Option PhaseAttempt :=
  match record.mode with
  | .v3 => record.attempts.take
  | .v2 => record.attempts.funding

/-- Nothing that a row says contradicts its state. -/
def restoredConsistent (record : RfqLifecycleRecord) : Bool :=
  !(decide (record.state ∈ exactStates) &&
      (record.terms.isNone || decide (record.mode ≠ .v3) && record.selectedQuote.isNone)) &&
    !(decide (record.state ∈ settlementStates) && record.settlement.isNone) &&
    !(decide (record.mode = .v3) && decide (record.state ∈ v3LegacyStates)) &&
    v3BindingsOk host record && terminalInvariantOk record && retryInvariantOk record &&
    (decide (record.state ≠ .submissionUnknown) || submissionUnknown (activeAttempt record)) &&
    restoredTargetsMatch host record && identityBindingsOk host record

/-- The quote, and of a v2 record the reservation, has run out. -/
def quoteExpired (record : RfqLifecycleRecord) (now : Int) : Bool :=
  decide (record.state = .quoted ∨ record.state = .reviewing) && match record.mode with
    | .v3 => decide ((record.settlement.map (·.deadline)).getD 0 ≤ now)
    | .v2 => decide ((record.quoteExpiresAt.or
          (record.selectedQuote.map (·.quoteExpiresAt))).getD 0 ≤ now) ||
        decide ((record.reservationExpiresAt.or
          (record.selectedQuote.map (·.reservationExpiresAt))).getD 0 ≤ now)

/-! ## Restore -/

/-- Why a row that can be read is quarantined. -/
def quarantineReason (record : RfqLifecycleRecord) (chainId account : Text) : Option String :=
  if record.chainId ≠ chainId ∨ record.account ≠ account then
    some "Wallet account or chain does not match this local resume record."
  else if record.state = .reorged ∧ record.evidenceAuthority.status ≠ .reorged then
    some "A reorged state requires an increasing evidence-authority signal."
  else if restoredConsistent host record = false then
    some ("The restored lifecycle state contradicts its exact terms, settlement, observation, or " ++
      "attempt evidence.")
  else none

/-- A row of schema v2 or v3 that can be read; `none` is what is thrown. -/
def restoreRead (record : RfqLifecycleRecord) (context : RestoreContext) :
    Option RfqLifecycleRecord := do
  let chainId ← (canonicalRfqChainId host context.chainId).toOption
  let account ← (canonicalRfqAccount context.account).toOption
  match quarantineReason host record chainId account with
  | some reason =>
    guard (record.chainId ≠ chainId ∨ record.account ≠ account ∨
      (record.state = .reorged ∧ record.evidenceAuthority.status ≠ .reorged) ∨
      keyUnreadable host record = false)
    return quarantineRecord record context.now reason.toList
  | none =>
    if quoteExpired record context.now = true then
      (transitionRfqLifecycle host record .expired context.now
        { reason := some (some
            "The restored quote or reservation expired. Acceptance is disabled.".toList) }).toOption
    else some record

def restoreRow (value : Json) (context : RestoreContext) : Option RfqLifecycleRecord := do
  let row ← asRow value
  if isName lifecycleV1SchemaRevision (row.get? "schemaRevision") = true then
    (migrateV1 host row context).toOption
  else
    let record ← parseRow host row context.fromBackup
    restoreRead host record context

/-- What is thrown outright is about the context alone. -/
def restoreRfqLifecycle (value : Json) (context : RestoreContext) :
    Except String RfqLifecycleRecord :=
  match restoreRow host value context with
  | some record => .ok record
  | none => quarantine host context "Malformed local resume record; no transaction was retried.".toList
      malformedLocalRecord

variable {host}

theorem restoreRow_row (record : RfqLifecycleRecord) (context : RestoreContext) :
    restoreRow host record.row context =
      (parseRow host record.row context.fromBackup).bind (restoreRead host · context) := by
  have hrow : asRow record.row = some record.row := rfl
  have hschema : isName lifecycleV1SchemaRevision (record.row.get? "schemaRevision") = false := by
    rw [row_schema]
    decide +kernel
  unfold restoreRow
  rw [hrow, Option.bind_eq_bind, Option.bind_some, hschema, if_neg Bool.false_ne_true]
  rfl

end App20.Rfq
