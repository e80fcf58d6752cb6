import App20.Rfq.Operations

/-!
# Stored rows

The row that is stored of an RFQ, a record or a tombstone, and what may replace it. A record is
brought into canonical form and passes both validators; its save is accepted only over the revision
that it is based on, and only if it keeps the evidence of what it replaces.

* `canonicalize_life`: the canonical form of a record has its state and its attempts.
* `save_ok`: a record that is saved over another is that again, or keeps its evidence.
-/

namespace App20.Rfq

open App20.Lib App20.Domain
open App20.Otc (localnetChainId)

variable (host : Host)

/-! ## Rows -/

structure RfqStorageTombstone where
  storageKey : Text
  storageRevision : Int
  recordDigest : Text

inductive RfqStoredRow where
  | record (record : RfqLifecycleRecord)
  | tombstone (tombstone : RfqStorageTombstone)

/-- `VALUE_STATES` -/
def valueStates : List RfqLifecycleState :=
  [.submissionUnknown, .funded, .filled, .claimable, .settled, .refundable, .refunded]

/-- `ATTEMPT_RANK` -/
def attemptRank : AttemptState → Nat
  | .preparing => 1
  | .walletBoundaryUnknown => 2
  | .submittedUnknown => 2
  | .reverted => 3
  | .confirmed => 4

/-! ## What a record says of its funds -/

def fundingAttempt (record : RfqLifecycleRecord) : Option PhaseAttempt :=
  match record.mode with
  | .v3 => record.attempts.take
  | .v2 => record.attempts.funding

def rfqHasFundingEvidence (record : RfqLifecycleRecord) : Bool :=
  ((fundingAttempt record).any fun a =>
    decide (a.walletBoundary = some .entered ∨ a.state = .walletBoundaryUnknown ∨
      a.state = .submittedUnknown ∨ a.state = .confirmed) || given a.transactionHash) ||
    record.latestObservation.any (fun o => decide (o.status ≠ .empty)) ||
    decide (record.state ∈ valueStates)

def lifecycleMayForget (record : RfqLifecycleRecord) : Bool :=
  decide (record.state ∈ [.settled, .refunded, .cancelled, .refused] ∨
    (record.mode = .v3 ∧ record.state = .expired)) &&
    decide (record.evidenceAuthority.status = .localNonAuthoritative)

def lifecycleMaySubmit (record : RfqLifecycleRecord) (now : Int) : Bool :=
  let expiresAt := match record.mode with
    | .v3 => (record.settlement.map (·.deadline)).getD 0
    | .v2 => (record.quoteExpiresAt.or (record.selectedQuote.map (·.quoteExpiresAt))).getD 0
  decide (record.state = .reviewing) &&
    ((fundingAttempt record).isNone || decide (record.mode = .v3) &&
      takeAttemptWasProvenNotSubmitted record.attempts.take) &&
    !record.restoredFromBackup && (decide (record.mode ≠ .v3) || given record.takerSigningKey) &&
    decide (now < expiresAt) &&
    (decide (record.mode = .v3) || decide (now < (record.reservationExpiresAt.or
      (record.selectedQuote.map (·.reservationExpiresAt))).getD 0))

/-! ## Canonical form -/

def isSupportedLocalnetAlias (value : Text) : Bool :=
  let unprefixed := unprefixedChain host value
  let upper := host.toUpperCase unprefixed
  if upper = "APP20_LOCALNET".toList ∨ upper = "QUIETLINE_LOCAL".toList then true
  else
    match parseBigInt unprefixed with
    | some felt => decide (0 ≤ felt) &&
        decide (hex felt.toNat = localnetChainId ∨ hex felt.toNat = historicalApp20LocalnetChainId)
    | none => false

def canonicalDealId (canonicalId dealId : Text) : Option Text := do
  let canonical ← (canonicalLocalRfqId dealId).toOption
  guard (canonical = canonicalId)
  return canonical

def canonicalOperation (canonicalId : Text) (operation : TargetOperation) :
    Option TargetOperation :=
  match operation with
  | .requestReservations releaseLeaseId => some (.requestReservations releaseLeaseId)
  | .fundedSettlementExpiry dealId escrowAddress solverId reservationId reservationFence
      quoteDigest => do
    let dealId ← canonicalDealId canonicalId dealId
    return .fundedSettlementExpiry dealId escrowAddress solverId reservationId reservationFence
      quoteDigest
  | .fundingTicket settlement => do
    let dealId ← canonicalDealId canonicalId settlement.dealId
    return .fundingTicket { settlement with dealId }
  | .makerFill settlement ticketAddress => do
    let dealId ← canonicalDealId canonicalId settlement.dealId
    let ticketAddress ← (canonicalLocalRfqId ticketAddress).toOption
    return .makerFill { settlement with dealId } ticketAddress
  | .take dealId expected => do
    let dealId ← canonicalDealId canonicalId dealId
    return .take dealId expected

def canonicalTarget (account canonicalId : Text) (target : AttemptTarget) : Option AttemptTarget := do
  guard (isSupportedLocalnetAlias host target.chainId = true)
  let targetAccount ← (canonicalRfqAccount target.account).toOption
  let rfqId ← (canonicalLocalRfqId target.rfqId).toOption
  guard (targetAccount = account ∧ rfqId = canonicalId)
  let operation ← canonicalOperation canonicalId target.operation
  return ⟨⟨localnetChainId, account, canonicalId, target.requestDigest⟩, operation⟩

def readIfSome {α : Type} (value : Option α) (read : α → Option α) : Option (Option α) :=
  match value with
  | none => some none
  | some a => (read a).map some

def canonicalAttempt (account canonicalId : Text) (attempt : PhaseAttempt) : Option PhaseAttempt := do
  let target ← readIfSome attempt.target (canonicalTarget host account canonicalId)
  return { attempt with target }

def canonicalAttempts (account canonicalId : Text) (attempts : Attempts) : Option Attempts := do
  let read (attempt : Option PhaseAttempt) :=
    readIfSome attempt (canonicalAttempt host account canonicalId)
  let funding ← read attempts.funding
  let fill ← read attempts.fill
  let claim ← read attempts.claim
  let refund ← read attempts.refund
  let reservationRelease ← read attempts.reservationRelease
  let take ← read attempts.take
  return ⟨funding, fill, claim, refund, reservationRelease, take⟩

def canonicalSettlement (canonicalId : Text) (settlement : RfqSettlementIdentity) :
    Option RfqSettlementIdentity := do
  let dealId ← canonicalDealId canonicalId settlement.dealId
  let ticketAddress ← readIfSome settlement.ticketAddress fun ticket =>
    (canonicalLocalRfqId ticket).toOption
  return { settlement with dealId, ticketAddress }

def canonicalObservation (canonicalId : Text) (observation : RfqLocalDealObservation) :
    Option RfqLocalDealObservation := do
  let dealId ← canonicalDealId canonicalId observation.dealId
  return { observation with dealId }

/-- `canonicalizeLocalIdentityFields` of a record under its own key; `none` where it is refused. -/
def canonicalizeLocalIdentityFields (record : RfqLifecycleRecord) : Option RfqLifecycleRecord := do
  let canonicalId ← (canonicalLocalRfqId record.rfqId).toOption
  guard (isSupportedLocalnetAlias host record.chainId = true)
  let account ← (canonicalRfqAccount record.account).toOption
  let settlement ← readIfSome record.settlement (canonicalSettlement canonicalId)
  let attempts ← canonicalAttempts host account canonicalId record.attempts
  let latestObservation ← readIfSome record.latestObservation (canonicalObservation canonicalId)
  return { record with
    chainId := localnetChainId
    account, rfqId := canonicalId
    settlement, attempts, latestObservation
    persisted := false }

def canonicalizeStorageRecord (record : RfqLifecycleRecord) : Except String RfqLifecycleRecord :=
  if isLocalRfqChain host record.chainId = false then .ok record
  else
    match canonicalizeLocalIdentityFields host record with
    | some canonical =>
      match assertRfqLifecycleAttemptTargets host canonical with
      | .ok _ => .ok canonical
      | .error _ =>
        .error "Local RFQ lifecycle identity is opaque, noncanonical, or contradictory."
    | none => .error "Local RFQ lifecycle identity is opaque, noncanonical, or contradictory."

/-! ## Replacement -/

def assertPreserved {α : Type} [DecidableEq α] (prior next : Option α) (label : String) :
    Except String Unit :=
  throwIf (prior ≠ none ∧ prior ≠ next)
    ("RFQ storage rejected removal or replacement of " ++ label ++ ".")

def fundingTicketOf (attempt : PhaseAttempt) : Option SettlementTarget :=
  match attempt.target.map AttemptTarget.operation with
  | some (.fundingTicket settlement) => some settlement
  | _ => none

/-- The ticket of a deal that was funded is added to its settlement. -/
def isExactTicketPersistenceTransition (prior replacement : RfqLifecycleRecord) :
    Except String Bool :=
  match prior.settlement, replacement.settlement, prior.attempts.funding,
      replacement.attempts.funding with
  | some priorSettlement, some nextSettlement, some priorAttempt, some nextAttempt =>
    match nextSettlement.ticketAddress with
    | none => .ok false
    | some nextTicket =>
      if priorSettlement.ticketAddress ≠ none ∨
          { priorSettlement with ticketAddress := none } ≠
            { nextSettlement with ticketAddress := none } ∨
          canonicalLocalRfqId nextTicket ≠ .ok nextTicket ∨ nextTicket = "0x0".toList ∨
          priorAttempt.attemptId ≠ nextAttempt.attemptId ∨
          (fundingTicketOf nextAttempt).isNone = true ∨ priorAttempt.target ≠ nextAttempt.target then
        .ok false
      else
        match fundingTicketOf priorAttempt with
        | none => .ok false
        | some target => do
          let dealId ← canonicalLocalRfqId target.dealId
          let settled ← canonicalLocalRfqId nextSettlement.dealId
          return decide (dealId = settled)
  | _, _, _, _ => .ok false

def assertTermsKept (prior next : Option RfqExactTerms) : Except String Unit :=
  match prior with
  | none => .ok ()
  | some terms =>
    throwIf (¬ ∃ n ∈ next, { terms with buyAmount := none } = { n with buyAmount := none } ∧
        (terms.buyAmount ≠ none → terms.buyAmount = n.buyAmount))
      "RFQ storage rejected removal or replacement of exact RFQ terms."

def assertQuoteKept (prior next : Option RfqSelectedQuote) : Except String Unit :=
  match prior with
  | none => .ok ()
  | some quote =>
    throwIf (¬ ∃ n ∈ next,
        { quote with quoteDigest := none, reservationFence := none } =
          { n with quoteDigest := none, reservationFence := none } ∧
        (quote.quoteDigest ≠ none → quote.quoteDigest = n.quoteDigest) ∧
        (quote.reservationFence ≠ none → quote.reservationFence = n.reservationFence))
      "RFQ storage rejected removal or replacement of selected quote identity."

def assertSettlementKept (prior replacement : RfqLifecycleRecord) : Except String Unit :=
  if prior.settlement = none then .ok ()
  else do
    let exact ← isExactTicketPersistenceTransition prior replacement
    throwIf (exact = false ∧ prior.settlement ≠ replacement.settlement)
      "RFQ storage rejected removal or replacement of settlement identity."

/-- The hash of a take goes with its attempt, once that is reverted. -/
def assertTakeHashKept (prior replacement : RfqLifecycleRecord) : Except String Unit :=
  if ∃ a ∈ prior.attempts.take, a.state = .reverted then .ok ()
  else
    assertPreserved prior.takeTransactionHash replacement.takeTransactionHash
      "Take transaction hash"

def assertV3Kept (prior replacement : RfqLifecycleRecord) : Except String Unit :=
  if prior.mode ≠ .v3 then .ok ()
  else do
    throwIf (prior.restoredFromBackup = true ∧
        (replacement.restoredFromBackup = false ∨ replacement.takerSigningKey ≠ none))
      "RFQ storage cannot make a backup-restored record executable."
    assertPreserved prior.bucket replacement.bucket "v3 size bucket"
    assertPreserved prior.takerCommitment replacement.takerCommitment "v3 taker commitment"
    assertPreserved prior.fills replacement.fills "v3 exact fills"
    assertPreserved prior.transcriptAcknowledgements replacement.transcriptAcknowledgements
      "v3 transcript acknowledgements"
    throwIf (prior.takerSigningKey ≠ none ∧ prior.takerSigningKey ≠ replacement.takerSigningKey ∧
        replacement.state ∉ [.settled, .expired, .refused, .cancelled] ∧
        replacement.restoredFromBackup = false)
      "RFQ storage rejected replacement of the v3 taker signing key."

def assertObservationKept (prior next : Option RfqLocalDealObservation) : Except String Unit :=
  match prior with
  | none => .ok ()
  | some observation =>
    throwIf (¬ ∃ n ∈ next, observation.status.toNat ≤ n.status.toNat ∧
        ¬ (n.status = observation.status ∧ observation.stage = .expired ∧ n.stage ≠ .expired))
      "RFQ storage rejected removal or downgrade of chain observation evidence."

/-- What is kept of an attempt, unless it was reverted and another took its place. -/
def assertAttemptKept (phase : Phase) (prior next : Option PhaseAttempt) : Except String Unit :=
  match prior, next with
  | none, _ => .ok ()
  | some attempt, none =>
    throwIf (attempt.state ≠ .reverted)
      ("RFQ storage rejected removal of the " ++ phase.name ++ " attempt evidence.")
  | some attempt, some n =>
    if n.attemptId ≠ attempt.attemptId then
      throwIf (attempt.state ≠ .reverted)
        ("RFQ storage rejected a sibling snapshot that would erase the " ++ phase.name ++
          " attempt evidence.")
    else do
      throwIf (attemptRank n.state < attemptRank attempt.state)
        ("RFQ storage rejected a same-attempt " ++ phase.name ++ " state downgrade.")
      assertPreserved attempt.transactionHash n.transactionHash
        (phase.name ++ " transaction hash")
      assertPreserved attempt.target n.target (phase.name ++ " immutable target")
      throwIf (attempt.walletBoundary = some .entered ∧ n.walletBoundary ≠ some .entered)
        ("RFQ storage rejected removal of the " ++ phase.name ++ " wallet-boundary evidence.")

def assertStateKept (prior next : RfqLifecycleState) : Except String Unit := do
  throwIf (prior ∈ valueStates ∧ next ∉ valueStates ∧ next ≠ .quarantined ∧ next ≠ .reorged)
    "RFQ storage rejected downgrade of value-bearing lifecycle evidence."
  throwIf ((prior = .settled ∨ prior = .refunded) ∧ next ≠ prior ∧ next ≠ .quarantined ∧
      next ≠ .reorged)
    "RFQ storage rejected downgrade of terminal lifecycle evidence."

def assertSuccessor (prior replacement : RfqLifecycleRecord) : Except String Unit := do
  throwIf (replacement.storagePredecessorRevision ≠ some prior.storageRevision ∨
      replacement.storageRevision ≠ prior.storageRevision + 1)
    "RFQ storage rejected a stale lifecycle snapshot without its exact predecessor revision."
  assertTermsKept prior.terms replacement.terms
  assertQuoteKept prior.selectedQuote replacement.selectedQuote
  assertSettlementKept prior replacement
  assertPreserved prior.requestDigest replacement.requestDigest "request identity"
  assertPreserved prior.transactionHash replacement.transactionHash "funding transaction hash"
  assertTakeHashKept prior replacement
  throwIf (prior.mode ≠ replacement.mode) "RFQ storage rejected replacement of lifecycle mode."
  assertV3Kept prior replacement
  assertObservationKept prior.latestObservation replacement.latestObservation
  throwIf (prior.evidenceAuthority.status ≠ .localNonAuthoritative ∧
      replacement.evidenceAuthority.status = .localNonAuthoritative)
    "RFQ storage rejected removal of unresolved authority evidence."
  Phase.all.forM fun phase =>
    assertAttemptKept phase (prior.attempts.get phase) (replacement.attempts.get phase)
  assertStateKept prior.state replacement.state

def assertRfqStorageReplacement (existing : Option RfqStoredRow)
    (replacement : RfqLifecycleRecord) : Except String Unit :=
  match existing with
  | some (.tombstone _) => .error
    "RFQ storage permanently rejected a lifecycle successor for a forgotten RFQ ID."
  | none =>
    throwIf (replacement.storageRevision ≠ 0 ∧
        replacement.storagePredecessorRevision ≠ some (replacement.storageRevision - 1))
      "RFQ storage rejected an unbound initial lifecycle snapshot."
  | some (.record prior) =>
    if finalizeRfqLifecycleForStorage prior = finalizeRfqLifecycleForStorage replacement then .ok ()
    else assertSuccessor prior replacement

def saveRecord (existing : Option RfqStoredRow) (record : RfqLifecycleRecord) :
    Except String RfqLifecycleRecord := do
  let canonical ← canonicalizeStorageRecord host record
  assertRfqLifecycleAttemptTargets host canonical
  assertRfqV3LifecycleBindings host canonical
  assertRfqStorageReplacement existing canonical
  return finalizeRfqLifecycleForStorage canonical

/-! ## Removal -/

def assertRfqStorageTombstoneReplacement (digest : RfqLifecycleRecord → Text)
    (existing : Option RfqStoredRow) (replacement : RfqStorageTombstone) :
    Except String RfqStorageTombstone :=
  match existing with
  | some (.tombstone found) => do
    throwIf (found.recordDigest ≠ replacement.recordDigest)
      "RFQ storage rejected conflicting authenticated tombstones for one RFQ ID."
    return if replacement.storageRevision ≤ found.storageRevision then found else replacement
  | none => .ok replacement
  | some (.record record) => do
    throwIf (record.restoredFromBackup = false ∧ (lifecycleMayForget record = false ∨
        digest (finalizeRfqLifecycleForStorage record) ≠ replacement.recordDigest))
      "RFQ storage rejected a portable tombstone over unresolved or nonmatching local evidence."
    return replacement

def assertRfqStorageRemoval (existing : Option RfqStoredRow) (expected : RfqLifecycleRecord) :
    Except String Unit := do
  throwIf (lifecycleMayForget expected = false)
    "RFQ storage refused removal of unresolved or value-bearing lifecycle evidence."
  match existing with
  | some (.record record) =>
    throwIf (finalizeRfqLifecycleForStorage record ≠ finalizeRfqLifecycleForStorage expected)
      "RFQ storage rejected stale removal without the exact terminal snapshot."
  | _ => .ok ()

def createRfqStorageTombstone (digest : RfqLifecycleRecord → Text) (storageKey : Text)
    (expected : RfqLifecycleRecord) : RfqStorageTombstone where
  storageKey
  storageRevision := expected.storageRevision
  recordDigest := digest (finalizeRfqLifecycleForStorage expected)

def replaceRfqWithTombstone (digest : RfqLifecycleRecord → Text) (existing : Option RfqStoredRow)
    (storageKey : Text) (expected : RfqLifecycleRecord) : Except String RfqStorageTombstone := do
  assertRfqStorageRemoval existing expected
  match existing with
  | some (.tombstone found) => return found
  | _ => return createRfqStorageTombstone digest storageKey expected

/-! ## The canonical form -/

variable {host}
variable {record canonical : RfqLifecycleRecord}

/-- What the guards of the storage read of an attempt. -/
def PhaseAttempt.evidence (attempt : PhaseAttempt) :
    Text × AttemptState × Option Text × Option WalletBoundary :=
  (attempt.attemptId, attempt.state, attempt.transactionHash, attempt.walletBoundary)

/-- Two forms of one record: only ids are written otherwise. -/
structure SameLife (record canonical : RfqLifecycleRecord) : Prop where
  mode : canonical.mode = record.mode
  state : canonical.state = record.state
  storageRevision : canonical.storageRevision = record.storageRevision
  predecessor : canonical.storagePredecessorRevision = record.storagePredecessorRevision
  backup : canonical.restoredFromBackup = record.restoredFromBackup
  key : canonical.takerSigningKey = record.takerSigningKey
  authority : canonical.evidenceAuthority = record.evidenceAuthority
  observed : canonical.latestObservation.map (·.status) = record.latestObservation.map (·.status)
  attempts : ∀ phase, (canonical.attempts.get phase).map PhaseAttempt.evidence =
    (record.attempts.get phase).map PhaseAttempt.evidence

theorem SameLife.refl (record : RfqLifecycleRecord) : SameLife record record :=
  ⟨rfl, rfl, rfl, rfl, rfl, rfl, rfl, rfl, fun _ => rfl⟩

theorem map_readIfSome {α β : Type} {value next : Option α} {read : α → Option α} {f : α → β}
    (hread : ∀ a b, read a = some b → f b = f a) (h : readIfSome value read = some next) :
    next.map f = value.map f := by
  cases value with
  | none =>
    cases h
    rfl
  | some a =>
    obtain ⟨b, hb, rfl⟩ := Option.map_eq_some_iff.mp h
    rw [Option.map_some, Option.map_some, hread a b hb]

theorem evidence_canonicalAttempt {account canonicalId : Text} {a b : PhaseAttempt}
    (h : canonicalAttempt host account canonicalId a = some b) : b.evidence = a.evidence := by
  simp only [canonicalAttempt, Option.bind_eq_bind, Option.bind_eq_some_iff, Option.pure_def,
    Option.some.injEq] at h
  obtain ⟨target, -, rfl⟩ := h
  rfl

theorem evidence_canonicalAttempts {account canonicalId : Text} {attempts next : Attempts}
    (h : canonicalAttempts host account canonicalId attempts = some next) (phase : Phase) :
    (next.get phase).map PhaseAttempt.evidence =
      (attempts.get phase).map PhaseAttempt.evidence := by
  simp only [canonicalAttempts, Option.bind_eq_bind, Option.bind_eq_some_iff, Option.pure_def,
    Option.some.injEq] at h
  obtain ⟨funding, hfunding, fill, hfill, claim, hclaim, refund, hrefund, release, hrelease, take,
    htake, rfl⟩ := h
  have hkeeps : ∀ a b, canonicalAttempt host account canonicalId a = some b →
      b.evidence = a.evidence := fun a b => evidence_canonicalAttempt
  cases phase with
  | funding => exact map_readIfSome hkeeps hfunding
  | fill => exact map_readIfSome hkeeps hfill
  | claim => exact map_readIfSome hkeeps hclaim
  | refund => exact map_readIfSome hkeeps hrefund
  | reservationRelease => exact map_readIfSome hkeeps hrelease
  | take => exact map_readIfSome hkeeps htake

theorem canonicalize_life (h : canonicalizeStorageRecord host record = .ok canonical) :
    SameLife record canonical := by
  unfold canonicalizeStorageRecord at h
  split at h
  · cases h
    exact .refl record
  · split at h
    · rename_i other hfields
      split at h
      · cases h
        simp only [canonicalizeLocalIdentityFields, Option.bind_eq_bind, Option.bind_eq_some_iff,
          Option.pure_def, Option.some.injEq] at hfields
        obtain ⟨canonicalId, -, _, -, account, -, settlement, -, attempts, hattempts, observation,
          hobservation, rfl⟩ := hfields
        refine ⟨rfl, rfl, rfl, rfl, rfl, rfl, rfl, ?_, evidence_canonicalAttempts hattempts⟩
        refine map_readIfSome (fun a b hread => ?_) hobservation
        simp only [canonicalObservation, Option.bind_eq_bind, Option.bind_eq_some_iff,
          Option.pure_def, Option.some.injEq] at hread
        obtain ⟨dealId, -, rfl⟩ := hread
        rfl
      · cases h
    · cases h

/-! ## What a save says -/

section

variable {existing : Option RfqStoredRow} {prior replacement saved : RfqLifecycleRecord}

/-- An attempt that is not given up keeps its id, and with it what it has said. -/
structure AttemptKept (prior : PhaseAttempt) (next : Option PhaseAttempt) : Prop where
  kept : prior.state ≠ .reverted → ∃ n ∈ next, n.attemptId = prior.attemptId
  hash : ∀ n ∈ next, n.attemptId = prior.attemptId → prior.transactionHash ≠ none →
    n.transactionHash = prior.transactionHash
  entered : ∀ n ∈ next, n.attemptId = prior.attemptId → prior.walletBoundary = some .entered →
    n.walletBoundary = some .entered
  rank : ∀ n ∈ next, n.attemptId = prior.attemptId → attemptRank prior.state ≤ attemptRank n.state

theorem attemptKept_of_ok {phase : Phase} {a : PhaseAttempt} {next : Option PhaseAttempt}
    (h : assertAttemptKept phase (some a) next = .ok ()) : AttemptKept a next := by
  unfold assertAttemptKept at h
  cases next with
  | none =>
    simp only [throwIf_ok, not_not] at h
    exact ⟨fun hnot => absurd h hnot, fun n hn => (by cases hn), fun n hn => (by cases hn),
      fun n hn => (by cases hn)⟩
  | some n =>
    dsimp only at h
    split at h
    · rename_i hother
      simp only [throwIf_ok, not_not] at h
      refine ⟨fun hnot => absurd h hnot, fun m hm hid => ?_, fun m hm hid => ?_, fun m hm hid => ?_⟩
      all_goals
        cases hm
        exact absurd hid hother
    · rename_i hsame
      rw [not_not] at hsame
      simp only [assertPreserved, bind_ok, throwIf_ok, exists_unit] at h
      obtain ⟨hrank, hhash, -, hentered⟩ := h
      refine ⟨fun _ => ⟨n, rfl, hsame⟩, fun m hm _ hgiven => ?_, fun m hm _ hboundary => ?_,
        fun m hm _ => ?_⟩
      all_goals cases hm
      · by_contra hne
        exact hhash ⟨hgiven, fun heq => hne heq.symm⟩
      · by_contra hne
        exact hentered ⟨hboundary, hne⟩
      · exact Nat.le_of_not_lt hrank

/-- What a record that replaces another one says of it. -/
structure Succeeds (prior replacement : RfqLifecycleRecord) : Prop where
  predecessor : replacement.storagePredecessorRevision = some prior.storageRevision
  revision : replacement.storageRevision = prior.storageRevision + 1
  mode : replacement.mode = prior.mode
  backup : prior.mode = .v3 → prior.restoredFromBackup = true →
    replacement.restoredFromBackup = true ∧ replacement.takerSigningKey = none
  observation : ∀ o ∈ prior.latestObservation, ∃ n ∈ replacement.latestObservation,
    o.status.toNat ≤ n.status.toNat
  attempts : ∀ phase, ∀ a ∈ prior.attempts.get phase, AttemptKept a (replacement.attempts.get phase)
  value : prior.state ∈ valueStates → replacement.state ∈ valueStates ∨
    replacement.state = .quarantined ∨ replacement.state = .reorged
  terminal : prior.state = .settled ∨ prior.state = .refunded → replacement.state = prior.state ∨
    replacement.state = .quarantined ∨ replacement.state = .reorged

theorem succeeds_of_ok (h : assertSuccessor prior replacement = .ok ()) :
    Succeeds prior replacement := by
  simp only [assertSuccessor, bind_ok, throwIf_ok, exists_unit, not_or, not_not] at h
  obtain ⟨⟨hpredecessor, hrevision⟩, -, -, -, -, -, -, hmode, hv3, hobservation, -, hattempts,
    hstate⟩ := h
  have hphases := forM_ok_iff.mp hattempts
  simp only [assertStateKept, bind_ok, throwIf_ok, exists_unit] at hstate
  refine ⟨hpredecessor, hrevision, hmode.symm, fun hv => ?_, fun o ho => ?_, fun phase a ha => ?_,
    fun hvalue => ?_, fun hterminal => ?_⟩
  · intro hbackup
    unfold assertV3Kept at hv3
    rw [if_neg (not_not.mpr hv)] at hv3
    simp only [bind_ok, throwIf_ok, exists_unit] at hv3
    have hkept := not_or.mp fun hbad => hv3.1 ⟨hbackup, hbad⟩
    exact ⟨Bool.not_eq_false _ ▸ hkept.1, not_not.mp hkept.2⟩
  · unfold assertObservationKept at hobservation
    rw [Option.mem_def.mp ho] at hobservation
    simp only [throwIf_ok, not_not] at hobservation
    obtain ⟨n, hn, hle, -⟩ := hobservation
    exact ⟨n, hn, hle⟩
  · have hphase := hphases phase (Phase.mem_all phase)
    rw [Option.mem_def.mp ha] at hphase
    exact attemptKept_of_ok hphase
  · by_contra hnot
    rw [not_or, not_or] at hnot
    exact hstate.1 ⟨hvalue, hnot⟩
  · by_contra hnot
    rw [not_or, not_or] at hnot
    exact hstate.2 ⟨hterminal, hnot⟩

theorem save_ok (h : saveRecord host (some (.record prior)) record = .ok saved) :
    ∃ canonical, SameLife record canonical ∧ Saveable host canonical ∧
      saved = finalizeRfqLifecycleForStorage canonical ∧
      (finalizeRfqLifecycleForStorage prior = saved ∨ Succeeds prior canonical) := by
  simp only [saveRecord, bind_ok, exists_unit, pure_ok] at h
  obtain ⟨canonical, hcanonical, htargets, hbindings, hreplaced, rfl⟩ := h
  refine ⟨canonical, canonicalize_life hcanonical, ⟨htargets, hbindings⟩, rfl, ?_⟩
  unfold assertRfqStorageReplacement at hreplaced
  dsimp only at hreplaced
  split at hreplaced
  · rename_i hsame
    exact .inl hsame
  · exact .inr (succeeds_of_ok hreplaced)

end

end App20.Rfq
