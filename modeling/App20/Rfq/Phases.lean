import App20.Rfq.Reconcile

/-!
# Phases after reconciliation

Which states a reconciliation can leave a record in, against the table of allowed transitions, and
what a second reconciliation with the same observation does.

* `reconcile_refines`: the state that is returned, for every record and observation.
-/

namespace App20.Rfq

open App20.Lib App20.Domain
open App20.Otc (localnetChainId)

variable {host : Host}

/-! ## The table -/

/-- One move of the table. -/
def Step (before after : RfqLifecycleState) : Prop := after ∈ allowed before

/-- The states that the moves of the table lead to. -/
def Reaches : RfqLifecycleState → RfqLifecycleState → Prop := Relation.ReflTransGen Step

theorem reaches_quarantined (state : RfqLifecycleState) : Reaches state .quarantined := by
  cases state <;> first
    | exact .refl
    | exact .single (by unfold Step; decide)

/-- By way of quarantine a refund can be reached from anywhere. -/
theorem reaches_refunded (state : RfqLifecycleState) : Reaches state .refunded := by
  have hcancel : Step .quarantined .cancelPending := by unfold Step; decide
  have hexpire : Step .cancelPending .expired := by unfold Step; decide
  have hrefund : Step .expired .refundable := by unfold Step; decide
  have hdone : Step .refundable .refunded := by unfold Step; decide
  exact ((((reaches_quarantined state).tail hcancel).tail hexpire).tail hrefund).tail hdone

/-- The states before the settlement of a deal, along the table. -/
def onTheWay : List RfqLifecycleState :=
  [.draft, .requesting, .quoted, .reviewing, .submissionUnknown, .funded, .filled, .claimable]

variable {state : RfqLifecycleState}

theorem reaches_claimable (h : state ∈ onTheWay) : Reaches state .claimable := by
  have hfilled : Reaches .filled .claimable := .single (by unfold Step; decide)
  have hfunded : Reaches .funded .claimable := .head (by unfold Step; decide) hfilled
  have hunknown : Reaches .submissionUnknown .claimable := .head (by unfold Step; decide) hfunded
  have hreviewing : Reaches .reviewing .claimable := .head (by unfold Step; decide) hunknown
  have hquoted : Reaches .quoted .claimable := .head (by unfold Step; decide) hreviewing
  have hrequesting : Reaches .requesting .claimable := .head (by unfold Step; decide) hquoted
  have hdraft : Reaches .draft .claimable := .head (by unfold Step; decide) hrequesting
  simp only [onTheWay, List.mem_cons, List.not_mem_nil, or_false] at h
  rcases h with rfl | rfl | rfl | rfl | rfl | rfl | rfl | rfl
  · exact hdraft
  · exact hrequesting
  · exact hquoted
  · exact hreviewing
  · exact hunknown
  · exact hfunded
  · exact hfilled
  · exact .refl

theorem reaches_settled (h : state ∈ onTheWay) : Reaches state .settled :=
  (reaches_claimable h).tail (by unfold Step; decide)

theorem reaches_funded (h : state = .reviewing ∨ state = .submissionUnknown ∨ state = .funded) :
    Reaches state .funded := by
  have hunknown : Reaches .submissionUnknown .funded := .single (by unfold Step; decide)
  rcases h with rfl | rfl | rfl
  · exact .head (by unfold Step; decide) hunknown
  · exact hunknown
  · exact .refl

/-- What the table leads to once an RFQ has expired or is quarantined. -/
def afterExpiry : List RfqLifecycleState :=
  [.expired, .refundable, .refunded, .cancelPending, .cancelled, .quarantined]

/-- The table does not lead back. -/
theorem after_of_reaches {before after : RfqLifecycleState} (h : Reaches before after)
    (hbefore : before ∈ afterExpiry) : after ∈ afterExpiry := by
  induction h with
  | refl => exact hbefore
  | @tail middle last _ hstep ih =>
    have hclosed : ∀ s ∈ afterExpiry, ∀ t ∈ allowed s, t ∈ afterExpiry := by decide
    exact hclosed middle ih last hstep

/-! ## What an observation does to a state -/

/-- The states of an RFQ that was given up, or lost, before its deal was observed. -/
def givenUp : List RfqLifecycleState :=
  [.expired, .refundable, .refused, .cancelPending, .cancelled, .reorged]

/-- The phase of a deal is taken over from the chain although the record was given up. -/
inductive TakenOver (record : RfqLifecycleRecord) : DealStatus → RfqLifecycleState → Prop where
  | funded : record.state = .expired → expiryObserved record = false →
      TakenOver record .funded .funded
  | filled : record.state ∈ givenUp → TakenOver record .filled .claimable
  | settled : record.state ∈ givenUp → TakenOver record .settled .settled

theorem state_cases (state : RfqLifecycleState) :
    state ∈ onTheWay ∨ state ∈ givenUp ∨ state = .settled ∨ state = .refunded ∨
      state = .quarantined := by
  cases state <;> decide

theorem observedState_refines {record : RfqLifecycleRecord} {status : DealStatus}
    (hstate : record.state ≠ .quarantined) (h : observedState record status = .ok state) :
    Reaches record.state state ∨ TakenOver record status state := by
  unfold observedState at h
  dsimp only at h
  split at h
  · cases h
  · rename_i hterminal
    rw [not_or, not_and, not_and, not_not, not_not] at hterminal
    cases status with
    | empty =>
      dsimp only at h
      split at h
      · cases h
      · cases h
        exact .inl .refl
    | funded =>
      dsimp only at h
      split at h
      · rename_i hfunded
        cases h
        rcases hfunded with hs | hs | hs | ⟨hs, hexpiry⟩
        · exact .inl (reaches_funded (.inl hs))
        · exact .inl (reaches_funded (.inr (.inl hs)))
        · exact .inl (reaches_funded (.inr (.inr hs)))
        · exact .inr (.funded hs hexpiry)
      · split at h
        · cases h
          exact .inl .refl
        · cases h
    | filled =>
      dsimp only at h
      split at h
      · cases h
        exact .inl .refl
      · rename_i hopen
        rw [not_or] at hopen
        cases h
        rcases state_cases record.state with hs | hs | hs | hs | hs
        · exact .inl (reaches_claimable hs)
        · exact .inr (.filled hs)
        · exact absurd hs hopen.1
        · exact absurd hs hopen.2
        · exact absurd hs hstate
    | settled =>
      cases h
      rcases state_cases record.state with hs | hs | hs | hs | hs
      · exact .inl (reaches_settled hs)
      · exact .inr (.settled hs)
      · rw [hs]
        exact .inl .refl
      · exact absurd (hterminal.2 hs) (by decide)
      · exact absurd hs hstate
    | timedOut =>
      cases h
      exact .inl (reaches_refunded record.state)

/-! ## A second reconciliation -/

/-- The record but for its revision, which every edit sets. -/
def unrevised (record : RfqLifecycleRecord) : RfqLifecycleRecord :=
  { record with storageRevision := 0, storagePredecessorRevision := none, persisted := false }

/-- The observation contradicts the outcome or the funding that the record says. -/
def Contradicts (record : RfqLifecycleRecord) (status : DealStatus) : Prop :=
  (record.state = .settled ∧ status ≠ .settled) ∨ (record.state = .refunded ∧ status ≠ .timedOut) ∨
    (status = .empty ∧ record.state ∈ fundedStates)

theorem bound_congr {record next : RfqLifecycleRecord} {value : Json} {now : Int}
    (hmode : next.mode = record.mode) (hterms : next.terms = record.terms)
    (hquote : next.selectedQuote = record.selectedQuote)
    (hsettlement : next.settlement = record.settlement) :
    boundObservation host next value now = boundObservation host record value now := by
  unfold boundObservation
  rw [hmode, hterms, hquote, hsettlement]

theorem quarantine_again (record : RfqLifecycleRecord) (now : Int) (reason : Text) (b : Bool) :
    unrevised (quarantineRecord { quarantineRecord record now reason with persisted := b } now
      reason) = unrevised (quarantineRecord record now reason) := rfl

/-- A phase that an observation has nothing to add to. -/
def IsConfirmed (attempts : Attempts) (phase : Phase) : Prop :=
  (∃ a, attempts.get phase = some a ∧ a.state = .confirmed) ∨
    (attempts.get phase = none ∧ phase = .funding)

section

variable {attempts : Attempts} {phase other : Phase} {label : String} {dealId : Text} {now : Int}

theorem confirmAttempt_of_isConfirmed (phase : Phase) (h : IsConfirmed attempts phase) :
    confirmAttempt attempts phase label dealId now = attempts := by
  unfold confirmAttempt
  rcases h with ⟨a, ha, hconfirmed⟩ | ⟨hnone, hphase⟩
  · rw [ha]
    exact if_pos hconfirmed
  · rw [hnone]
    exact if_pos hphase

theorem isConfirmed_confirmAttempt : IsConfirmed (confirmAttempt attempts phase label dealId now)
    phase := by
  unfold confirmAttempt
  cases h : attempts.get phase with
  | none =>
    dsimp only
    by_cases hphase : phase = .funding
    · rw [if_pos hphase]
      exact .inr ⟨h, hphase⟩
    · rw [if_neg hphase]
      exact .inl ⟨_, Attempts.get_set_self _ _ _, rfl⟩
  | some attempt =>
    dsimp only
    by_cases hconfirmed : attempt.state = .confirmed
    · rw [if_pos hconfirmed]
      exact .inl ⟨attempt, h, hconfirmed⟩
    · rw [if_neg hconfirmed]
      exact .inl ⟨_, Attempts.get_set_self _ _ _, rfl⟩

theorem get_confirmAttempt_of_ne (hne : other ≠ phase) :
    (confirmAttempt attempts phase label dealId now).get other = attempts.get other := by
  unfold confirmAttempt
  cases attempts.get phase with
  | none | some attempt =>
    dsimp only
    split
    · rfl
    · exact Attempts.get_set_of_ne _ _ hne

theorem fill_confirmAttempt_of_ne (hne : phase ≠ .fill) :
    (confirmAttempt attempts phase label dealId now).fill = attempts.fill :=
  get_confirmAttempt_of_ne hne.symm

theorem IsConfirmed.keep (h : IsConfirmed attempts other) :
    IsConfirmed (confirmAttempt attempts phase label dealId now) other := by
  by_cases hne : other = phase
  · rw [hne]
    exact isConfirmed_confirmAttempt
  · unfold IsConfirmed
    rw [get_confirmAttempt_of_ne hne]
    exact h

theorem confirmedAttempts_again (status : DealStatus) :
    confirmedAttempts (confirmedAttempts attempts status dealId now) status dealId now =
      confirmedAttempts attempts status dealId now := by
  cases status with
  | empty => rfl
  | funded => exact confirmAttempt_of_isConfirmed _ isConfirmed_confirmAttempt
  | filled | timedOut =>
    simp only [confirmedAttempts]
    rw [confirmAttempt_of_isConfirmed .funding isConfirmed_confirmAttempt.keep,
      confirmAttempt_of_isConfirmed _ isConfirmed_confirmAttempt]
  | settled =>
    simp only [confirmedAttempts]
    rw [confirmAttempt_of_isConfirmed .funding isConfirmed_confirmAttempt.keep.keep,
      confirmAttempt_of_isConfirmed .fill isConfirmed_confirmAttempt.keep,
      confirmAttempt_of_isConfirmed _ isConfirmed_confirmAttempt]

end

theorem observedState_again {record : RfqLifecycleRecord} {observation : RfqLocalDealObservation}
    (now : Int) (h : observedState record observation.status = .ok state) :
    observedState (observedRecord record observation state now) observation.status = .ok state := by
  have hstate : (observedRecord record observation state now).state = state := rfl
  unfold observedState at h
  dsimp only at h
  split at h
  · cases h
  · rename_i hterminal
    rw [not_or, not_and, not_and, not_not, not_not] at hterminal
    unfold observedState
    rw [hstate]
    dsimp only
    cases hstatus : observation.status with
    | empty =>
      rw [hstatus] at h
      dsimp only at h
      split at h
      · cases h
      · rename_i hnot
        cases h
        rw [if_neg, if_neg hnot]
        rintro (⟨hs, -⟩ | ⟨hs, -⟩)
        · exact hnot (by rw [hs]; decide)
        · exact hnot (by rw [hs]; decide)
    | funded =>
      rw [hstatus] at h
      dsimp only at h
      split at h
      · cases h
        rfl
      · rename_i hnot
        split at h
        · rename_i hkept
          cases h
          rcases hkept with hs | hs
          · have hobserved : expiryObserved record = true := by
              by_contra hexpiry
              exact hnot (.inr (.inr (.inr ⟨hs, Bool.eq_false_iff.mpr hexpiry⟩)))
            have hlatest : (observedRecord record observation record.state now).latestObservation =
                record.latestObservation := if_pos ⟨hstatus, .inl hs, hobserved⟩
            have hagain : expiryObserved (observedRecord record observation record.state now) =
                true := by
              unfold expiryObserved
              rw [hlatest]
              exact hobserved
            rw [hs] at hagain ⊢
            simp [hagain]
          · rw [hs]
            rfl
        · cases h
    | filled =>
      rw [hstatus] at h hterminal
      dsimp only at h
      split at h
      · rename_i hs
        rcases hs with hs | hs
        · exact absurd (hterminal.1 hs) (by decide)
        · exact absurd (hterminal.2 hs) (by decide)
      · cases h
        rfl
    | settled | timedOut =>
      rw [hstatus] at h
      cases h
      rfl

theorem observedRecord_again {record : RfqLifecycleRecord} {observation : RfqLocalDealObservation}
    {now : Int} (saved : Bool) :
    unrevised (observedRecord { observedRecord record observation state now with persisted := saved }
      observation state now) = unrevised (observedRecord record observation state now) := by
  generalize hnext : observedRecord record observation state now = next
  have hattempts : (observedRecord { next with persisted := saved } observation state now).attempts =
      next.attempts := by
    rw [← hnext]
    exact confirmedAttempts_again observation.status
  have hlatest : (observedRecord { next with persisted := saved } observation state
      now).latestObservation = next.latestObservation := by
    by_cases hkept : observation.status = .funded ∧ (state = .expired ∨ state = .refundable) ∧
        expiryObserved next = true
    · exact if_pos hkept
    · have hobserved : (observedRecord { next with persisted := saved } observation state
          now).latestObservation = some observation := if_neg hkept
      rw [hobserved, ← hnext]
      refine (if_neg fun hbefore => hkept ⟨hbefore.1, hbefore.2.1, ?_⟩).symm
      -- What was kept is still there.
      rw [← hnext]
      have hlatest : (observedRecord record observation state now).latestObservation =
          record.latestObservation := if_pos hbefore
      unfold expiryObserved
      rw [hlatest]
      exact hbefore.2.2
  calc unrevised (observedRecord { next with persisted := saved } observation state now)
      = unrevised { next with
          state := state
          updatedAt := now
          recoveryReadFailure := none
          attempts :=
            (observedRecord { next with persisted := saved } observation state now).attempts
          latestObservation := (observedRecord { next with persisted := saved } observation state
            now).latestObservation } := rfl
    _ = unrevised { next with state := state, updatedAt := now, recoveryReadFailure := none } := by
        rw [hattempts, hlatest]
    _ = unrevised next := by
        rw [← hnext]
        rfl

/-! ## Reconciliation -/

variable {record : RfqLifecycleRecord} {value : Json} {now : Int}

theorem reconcile_state (hstate : record.state ≠ .quarantined) :
    Reaches record.state (reconcileRfqLifecycleWithLocalDeal host record value now).state ∨
      ∃ observation, boundObservation host record value now = .ok observation ∧
        TakenOver record observation.status
          (reconcileRfqLifecycleWithLocalDeal host record value now).state := by
  cases hbound : boundObservation host record value now with
  | error reason =>
    rw [reconcile_unbound hbound]
    exact .inl (reaches_quarantined _)
  | ok observation =>
    cases hobserved : observedState record observation.status with
    | error reason =>
      rw [reconcile_contradicted hbound hobserved]
      exact .inl (reaches_quarantined _)
    | ok state =>
      rw [reconcile_observed hbound hobserved]
      rcases observedState_refines hstate hobserved with hreaches | htaken
      · exact .inl hreaches
      · exact .inr ⟨observation, rfl, htaken⟩

theorem reconcile_quarantined (hstate : record.state = .quarantined)
    (hstatus : ∀ observation, boundObservation host record value now = .ok observation →
      observation.status = .empty ∨ observation.status = .funded) :
    (reconcileRfqLifecycleWithLocalDeal host record value now).state = .quarantined := by
  cases hbound : boundObservation host record value now with
  | error reason =>
    rw [reconcile_unbound hbound]
    rfl
  | ok observation =>
    cases hobserved : observedState record observation.status with
    | error reason =>
      rw [reconcile_contradicted hbound hobserved]
      rfl
    | ok state =>
      rw [reconcile_observed hbound hobserved]
      unfold observedState at hobserved
      rw [hstate] at hobserved
      rcases hstatus observation hbound with hs | hs
      · rw [hs] at hobserved
        cases hobserved
        rfl
      · rw [hs] at hobserved
        cases hobserved

theorem reconcile_again
    (hcontradicts : ∀ observation, boundObservation host record value now = .ok observation →
      ¬ Contradicts record observation.status) (saved : Bool) :
    unrevised (reconcileRfqLifecycleWithLocalDeal host
      { reconcileRfqLifecycleWithLocalDeal host record value now with persisted := saved } value now) =
      unrevised (reconcileRfqLifecycleWithLocalDeal host record value now) := by
  cases hbound : boundObservation host record value now with
  | error reason =>
    rw [reconcile_unbound hbound]
    have hagain : boundObservation host
        { quarantineRecord record now reason.toList with persisted := saved } value now =
        .error reason := (bound_congr rfl rfl rfl rfl).trans hbound
    rw [reconcile_unbound hagain]
    exact quarantine_again record now reason.toList saved
  | ok observation =>
    cases hobserved : observedState record observation.status with
    | error reason =>
      rw [reconcile_contradicted hbound hobserved]
      have hagain : boundObservation host
          { quarantineRecord record now reason.toList with persisted := saved } value now =
          .ok observation := (bound_congr rfl rfl rfl rfl).trans hbound
      have hnot := hcontradicts observation hbound
      rw [Contradicts, not_or, not_or] at hnot
      have hreason : observedState
          { quarantineRecord record now reason.toList with persisted := saved }
          observation.status = .error reason := by
        unfold observedState at hobserved ⊢
        dsimp only at hobserved
        rw [if_neg (not_or.mpr ⟨hnot.1, hnot.2.1⟩)] at hobserved
        cases hstatus : observation.status with
        | empty =>
          rw [hstatus] at hobserved
          dsimp only at hobserved
          rw [if_neg fun hs => hnot.2.2 ⟨hstatus, hs⟩] at hobserved
          cases hobserved
        | funded =>
          rw [hstatus] at hobserved
          dsimp only at hobserved
          split at hobserved
          · cases hobserved
          · split at hobserved
            · cases hobserved
            · cases hobserved
              rfl
        | filled =>
          rw [hstatus] at hobserved
          dsimp only at hobserved
          split at hobserved
          · cases hobserved
          · cases hobserved
        | settled | timedOut =>
          rw [hstatus] at hobserved
          cases hobserved
      rw [reconcile_contradicted hagain hreason]
      exact quarantine_again record now reason.toList saved
    | ok state =>
      rw [reconcile_observed hbound hobserved]
      have hagain : boundObservation host
          { observedRecord record observation state now with persisted := saved } value now =
          .ok observation := (bound_congr rfl rfl rfl rfl).trans hbound
      have hstate : observedState
          { observedRecord record observation state now with persisted := saved }
          observation.status = .ok state := observedState_again now hobserved
      rw [reconcile_observed hagain hstate]
      exact observedRecord_again saved

theorem reconcile_refines (host : Host) (record : RfqLifecycleRecord) (value : Json) (now : Int) :
    let next := reconcileRfqLifecycleWithLocalDeal host record value now
    (record.state ≠ .quarantined → Reaches record.state next.state ∨
      ∃ observation, boundObservation host record value now = .ok observation ∧
        TakenOver record observation.status next.state) ∧ (record.state = .quarantined →
      (∀ observation, boundObservation host record value now = .ok observation →
        observation.status = .empty ∨ observation.status = .funded) → next.state = .quarantined) ∧
    ((∀ observation, boundObservation host record value now = .ok observation →
        ¬ Contradicts record observation.status) →
      ∀ saved, unrevised (reconcileRfqLifecycleWithLocalDeal host
        { next with persisted := saved } value now) = unrevised next) :=
  ⟨reconcile_state, reconcile_quarantined, reconcile_again⟩

/-! ## A record that is observed -/

/-- Letters are those of ASCII, and a key is its own public key. -/
def plainHost : Host where
  toUpperCase s := s.map Char.toUpper
  toLowerCase s := s.map Char.toLower
  toNumber := fun _ => none
  takerPublicKeyFor := some
  fillsDigest := fun _ => some "0x1".toList

def plainTerms : RfqExactTerms where
  pairId := "STRK_USDC".toList
  sellSymbol := "STRK".toList
  sellAddress := "0xa".toList
  sellDecimals := 18
  sellAmount := "5".toList
  buySymbol := "USDC".toList
  buyAddress := "0xb".toList
  buyDecimals := 6
  minBuyAmount := none
  buyAmount := some "7".toList
  rfqExpiresAt := 50

def plainQuote : RfqSelectedQuote where
  version := .v1
  solverId := "maker".toList
  solverKey := "key".toList
  nonce := "1".toList
  reservationId := "r1".toList
  spreadBps := 0
  pricingProvenance := "fixture".toList
  quotedAt := 10
  quoteExpiresAt := 50
  reservationExpiresAt := 50
  buyAmount := "7".toList
  intentDigest := "0xd".toList
  signature := "s".toList
  quoteDigest := some "q".toList
  reservationFence := some "1".toList

def plainSettlement : RfqSettlementIdentity where
  version := .localnetV2
  escrowAddress := "0xe".toList
  dealId := "0x1".toList
  ticketAddress := some "0xf".toList
  commitmentDigest := none
  deadline := 50

def plainRecord (state : RfqLifecycleState) : RfqLifecycleRecord where
  mode := .v2
  chainId := localnetChainId
  account := "0x9".toList
  rfqId := "0x1".toList
  state
  updatedAt := 10
  storageRevision := 0
  storagePredecessorRevision := none
  terms := some plainTerms
  selectedQuote := some plainQuote
  settlement := some plainSettlement
  attempts := .empty
  latestObservation := none
  evidenceAuthority := defaultEvidenceAuthority 10
  requestDigest := some "0xd".toList
  quoteExpiresAt := none
  reservationExpiresAt := none
  transactionHash := none
  bucket := none
  takerCommitment := none
  takerSigningKey := none
  fills := none
  takeTransactionHash := none
  transcriptAcknowledgements := none
  reason := none
  serverDerived := false
  recoveryReadFailure := none
  restoredFromBackup := false
  persisted := false

def plainDeal (status : Int) : Json :=
  .object [("status", .number status), ("dealId", .string "0x1".toList),
    ("escrowAddress", .string "0xe".toList), ("legAToken", .string "0xa".toList),
    ("legAAmount", .string "5".toList), ("legBToken", .string "0xb".toList),
    ("legBTerms", .string "7".toList), ("legBAmount", .string "7".toList),
    ("deadline", .number 50), ("ticket", .string "0xf".toList)]

/-- A filled deal takes a record out of quarantine; a settled record whose deal timed out is
quarantined, and the same observation makes it a refunded one; an expired record is funded. -/
theorem reconcile_outside_claim :
    (reconcileRfqLifecycleWithLocalDeal plainHost (plainRecord .quarantined) (plainDeal 2) 20).state =
        .claimable ∧ ¬ Reaches .quarantined .claimable ∧
    (reconcileRfqLifecycleWithLocalDeal plainHost (plainRecord .settled) (plainDeal 4) 20).state =
        .quarantined ∧ (reconcileRfqLifecycleWithLocalDeal plainHost
      (reconcileRfqLifecycleWithLocalDeal plainHost (plainRecord .settled) (plainDeal 4) 20)
      (plainDeal 4) 20).state = .refunded ∧
    (reconcileRfqLifecycleWithLocalDeal plainHost (plainRecord .expired) (plainDeal 1) 20).state =
        .funded ∧ ¬ Reaches .expired .funded := by
  refine ⟨by decide +kernel, fun h => ?_, by decide +kernel, by decide +kernel, by decide +kernel,
    fun h => ?_⟩
  · exact absurd (after_of_reaches h (by decide)) (by decide)
  · exact absurd (after_of_reaches h (by decide)) (by decide)

end App20.Rfq
