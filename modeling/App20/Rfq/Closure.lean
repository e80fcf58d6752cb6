import App20.Rfq.Operations

/-!
# Results that cannot be saved

An operation on a record that passes the validators can return one that does not pass them again, and
that is lost. A maker's fill that is first seen on the chain gets an attempt without a target; a
terminal v3 record that is quarantined misses its key.

* `run_saveable_iff`: for every operation on a record that passes the validators, the exact condition
  under which its result passes them.
-/

namespace App20.Rfq

open App20.Lib App20.Domain
open App20.Otc (localnetChainId)

/-! ## What is lost -/

def RestoreQuarantines (host : Host) (record read : RfqLifecycleRecord) (context : RestoreContext) :
    Prop :=
  parseRow host record.row context.fromBackup = some read ∧
    ∃ chainId account, canonicalRfqChainId host context.chainId = .ok chainId ∧
      canonicalRfqAccount context.account = .ok account ∧
      quarantineReason host read chainId account ≠ none ∧
      (read.chainId ≠ chainId ∨ read.account ≠ account ∨
        (read.state = .reorged ∧ read.evidenceAuthority.status ≠ .reorged) ∨
        keyUnreadable host read = false)

def Loses (host : Host) (record : RfqLifecycleRecord) : LifecycleOperation → Prop
  | .transition .. | .beginAttempt .. | .confirmTake .. | .revertTake .. | .observeExpiry _ => False
  -- The v1 migration leaves a hash without a target, and no other state may be without one.
  | .updateAttempt phase state _ patch =>
    ∃ a ∈ record.attempts.get phase, phase = .funding ∧ a.target = none ∧
      ¬ (state = .submittedUnknown ∧ given (patch.apply a).transactionHash = true)
  | .reconcile value now => CannotBeQuarantined record ∨
    ∃ observation, boundObservation host record value now = .ok observation ∧
      record.attempts.fill = none ∧ record.state ≠ .refunded ∧
      (observation.status = .settled ∨ (observation.status = .filled ∧ record.state ≠ .settled))
  | .quarantine .. => CannotBeQuarantined record
  | .restore context => ∃ read, RestoreQuarantines host record read context ∧
    ¬ Quarantinable host read
  | .authority signal => signal.status = .reorged ∧ record.mode = .v3 ∧ record.state = .refunded ∧
    record.restoredFromBackup = false

variable {host : Host} {record next : RfqLifecycleRecord}

/-! ## Attempts -/

theorem bindings_of_attempts (hdeal : SameDeal record next) (hstate : next.state = record.state)
    (htaker : SameTaker record next)
    (hacknowledgements : next.transcriptAcknowledgements = record.transcriptAcknowledgements)
    (htake : record.mode = .v2 → next.attempts.take = record.attempts.take ∧
      next.takeTransactionHash = record.takeTransactionHash) :
    assertRfqV3LifecycleBindings host next = assertRfqV3LifecycleBindings host record := by
  cases hmode : record.mode with
  | v2 =>
    exact v2Bindings_congr hmode (hdeal.mode.trans hmode) htaker hdeal.fills
      (htake hmode).2 hacknowledgements (htake hmode).1
  | v3 => exact hdeal.v3Bindings hmode hstate htaker

theorem no_take_of_v2 (hmode : record.mode = .v2) (h : Saveable host record) :
    record.attempts.take = none := by
  have hbindings := h.2
  unfold assertRfqV3LifecycleBindings at hbindings
  rw [hmode] at hbindings
  simp only [throwIf_ok, not_or] at hbindings
  exact Option.not_isSome_iff_eq_none.mp hbindings.2.2.2.2.2.2.1

theorem begin_saveable {phase : Phase} {attemptId : Text} {now : Int}
    {target : Option AttemptTarget}
    (h : beginRfqPhaseAttempt host record phase attemptId now target = .ok next) :
    Saveable host next := by
  have htargets := (begin_ok h).2.2.2.2.2.2
  refine ⟨htargets, ?_⟩
  have hphase := (begin_ok h).1
  have hbindings := (begin_ok h).2.1
  rw [begin_eq h]
  rw [← hbindings]
  have hother : record.mode = .v2 → phase ≠ .take := by
    intro hmode htake
    have hv3 := hphase.mpr htake
    rw [hmode] at hv3
    cases hv3
  unfold begun
  dsimp only
  split
  · rename_i hretry
    refine bindings_of_attempts (by constructor <;> rfl) rfl ⟨rfl, rfl, rfl, rfl⟩ rfl fun hmode => ?_
    exact absurd hretry.1 (hother hmode)
  · refine bindings_of_attempts (by constructor <;> rfl) rfl ⟨rfl, rfl, rfl, rfl⟩ rfl fun hmode => ?_
    exact ⟨Attempts.take_set_of_ne record.attempts _ (hother hmode), rfl⟩

theorem update_saveable_iff {phase : Phase} {state : AttemptState} {now : Int}
    {patch : AttemptPatch} (hsaved : Saveable host record)
    (h : updateRfqPhaseAttempt record phase state now patch = .ok next) :
    Saveable host next ↔ ¬ Loses host record (.updateAttempt phase state now patch) := by
  obtain ⟨current, hcurrent, -, rfl⟩ := update_ok h
  rw [Option.mem_def] at hcurrent
  have hdeal : SameDeal record
      (withAttempt record phase { patch.apply current with state, updatedAt := now } now) := by
    constructor <;> rfl
  have hbindings : assertRfqV3LifecycleBindings host (withAttempt record phase
      { patch.apply current with state, updatedAt := now } now) = .ok () := by
    rw [← hsaved.2]
    refine bindings_of_attempts hdeal rfl ⟨rfl, rfl, rfl, rfl⟩ rfl fun hmode => ?_
    have hother : phase ≠ .take := by
      rintro rfl
      rw [show record.attempts.get .take = none from no_take_of_v2 hmode hsaved] at hcurrent
      cases hcurrent
    refine ⟨Attempts.take_set_of_ne record.attempts _ hother, ?_⟩
    change Option.getD (if phase = .take then _ else none) _ = _
    rw [if_neg hother]
    rfl
  have hfit := attemptsFit_iff.mp hsaved.1
  have hset : (withAttempt record phase { patch.apply current with state, updatedAt := now }
      now).attempts = record.attempts.set phase { patch.apply current with state, updatedAt := now } :=
    rfl
  have hkeeps : ({ patch.apply current with state, updatedAt := now } : PhaseAttempt).target =
      current.target := rfl
  unfold Saveable
  rw [and_iff_left hbindings, hdeal.fit, hset, hfit.set_iff,
    fits_iff_of_target (hfit phase current hcurrent) hkeeps]
  refine not_congr ⟨fun hbad => ⟨current, hcurrent, hbad⟩, ?_⟩
  rintro ⟨a, ha, hbad⟩
  rw [Option.mem_def, hcurrent, Option.some.injEq] at ha
  rw [ha]
  exact hbad

/-! ## Reconciliation -/

theorem bound_ok {value : Json} {now : Int} {observation : RfqLocalDealObservation}
    (h : boundObservation host record value now = .ok observation) :
    record.mode = .v2 ∧ record.terms ≠ none := by
  unfold boundObservation at h
  split at h
  · cases h
  · rename_i hmode
    refine ⟨by cases hm : record.mode with | v2 => rfl | v3 => exact absurd hm hmode, ?_⟩
    split at h
    · rename_i hterms _
      rw [hterms]
      exact Option.some_ne_none _
    · cases h

section

variable {attempts : Attempts} {status : DealStatus} {dealId : Text} {now : Int}

theorem confirmed_fit_iff (hterms : record.terms ≠ none) (h : AttemptsFit host record attempts) :
    AttemptsFit host record (confirmedAttempts attempts status dealId now) ↔
      ¬ (attempts.fill = none ∧ (status = .filled ∨ status = .settled)) := by
  have hfunded (label : String) :
      AttemptsFit host record (confirmAttempt attempts .funding label dealId now) :=
    h.confirm hterms (by decide) (fun hphase => by cases hphase)
  -- A fill that was not attempted stays without a target, whatever is confirmed after it.
  have hunfilled (label : String) (hfill : attempts.fill = none) : ∃ a,
      (confirmAttempt (confirmAttempt attempts .funding label dealId now) .fill
        "Exact maker fill observed on local devnet." dealId now).fill = some a ∧
      a.target = none := by
    have hnone : (confirmAttempt attempts .funding label dealId now).get .fill = none :=
      (get_confirmAttempt_of_ne (by decide)).trans hfill
    unfold confirmAttempt at hnone ⊢
    rw [hnone]
    exact ⟨_, rfl, rfl⟩
  have hfilled (label : String) (hfill : attempts.fill ≠ none) :
      AttemptsFit host record (confirmAttempt (confirmAttempt attempts .funding label dealId now)
        .fill "Exact maker fill observed on local devnet." dealId now) := by
    refine (hfunded label).confirm hterms (by decide) fun _ => ?_
    rw [fill_confirmAttempt_of_ne (by decide)]
    exact hfill
  cases status with
  | empty => exact iff_of_true h fun hnot => (by rcases hnot.2 with hs | hs <;> cases hs)
  | funded =>
    exact iff_of_true (hfunded _) fun hnot => (by rcases hnot.2 with hs | hs <;> cases hs)
  | timedOut =>
    refine iff_of_true ?_ fun hnot => (by rcases hnot.2 with hs | hs <;> cases hs)
    exact (hfunded _).confirm hterms (by decide) fun hphase => (by cases hphase)
  | filled =>
    by_cases hfill : attempts.fill = none
    · obtain ⟨a, ha, htarget⟩ := hunfilled _ hfill
      exact iff_of_false (not_fit_of_fill ha htarget) (not_not.mpr ⟨hfill, .inl rfl⟩)
    · exact iff_of_true (hfilled _ hfill) fun hnot => hfill hnot.1
  | settled =>
    by_cases hfill : attempts.fill = none
    · obtain ⟨a, ha, htarget⟩ := hunfilled _ hfill
      refine iff_of_false (not_fit_of_fill (a := a) ?_ htarget) (not_not.mpr ⟨hfill, .inr rfl⟩)
      exact (fill_confirmAttempt_of_ne (by decide)).trans ha
    · refine iff_of_true ?_ fun hnot => hfill hnot.1
      exact (hfilled _ hfill).confirm hterms (by decide) fun hphase => (by cases hphase)

theorem take_confirmedAttempts : (confirmedAttempts attempts status dealId now).take =
    attempts.take := by
  have hkeeps {attempts : Attempts} {phase : Phase} {label : String} (hphase : phase ≠ .take) :
      (confirmAttempt attempts phase label dealId now).take = attempts.take :=
    get_confirmAttempt_of_ne hphase.symm
  cases status with
  | empty => rfl
  | funded => exact hkeeps (by decide)
  | filled | timedOut => exact (hkeeps (by decide)).trans (hkeeps (by decide))
  | settled => exact (hkeeps (by decide)).trans ((hkeeps (by decide)).trans (hkeeps (by decide)))

end

/-- A deal that is filled or settled is observed as such, but against a terminal outcome. -/
theorem observedState_filled {status : DealStatus} {state : RfqLifecycleState}
    (h : observedState record status = .ok state) :
    (status = .filled ∨ status = .settled) ↔ record.state ≠ .refunded ∧
      (status = .settled ∨ (status = .filled ∧ record.state ≠ .settled)) := by
  unfold observedState at h
  dsimp only at h
  split at h
  · cases h
  · rename_i hterminal
    rw [not_or, not_and, not_and, not_not, not_not] at hterminal
    constructor
    · rintro (rfl | rfl)
      · refine ⟨fun hs => ?_, .inr ⟨rfl, fun hs => ?_⟩⟩
        · cases hterminal.2 hs
        · cases hterminal.1 hs
      · exact ⟨fun hs => (by cases hterminal.2 hs), .inl rfl⟩
    · rintro ⟨-, hs | hs⟩
      · exact .inr hs
      · exact .inl hs.1

/-- A status that contradicts a terminal outcome is none that would have been lost. -/
theorem observedState_error {status : DealStatus} {reason : String}
    (h : observedState record status = .error reason) : ¬ (record.state ≠ .refunded ∧
      (status = .settled ∨ (status = .filled ∧ record.state ≠ .settled))) := by
  rintro ⟨hrefunded, hstatus⟩
  unfold observedState at h
  dsimp only at h
  split at h
  · rename_i hterminal
    rcases hterminal with ⟨hs, hother⟩ | ⟨hs, -⟩
    · rcases hstatus with hsettled | ⟨-, hnot⟩
      · exact hother hsettled
      · exact hnot hs
    · exact hrefunded hs
  · rcases hstatus with rfl | ⟨rfl, -⟩
    · cases h
    · dsimp only at h
      split at h <;> cases h

theorem reconcile_saveable_iff {value : Json} {now : Int} (hsaved : Saveable host record) :
    Saveable host (reconcileRfqLifecycleWithLocalDeal host record value now) ↔
      ¬ Loses host record (.reconcile value now) := by
  unfold Loses
  cases hbound : boundObservation host record value now with
  | error reason =>
    rw [reconcile_unbound hbound, saveable_quarantine, quarantinable_iff hsaved, not_or]
    refine (and_iff_left ?_).symm
    rintro ⟨observation, hnot, -⟩
    rw [hbound] at hnot
    cases hnot
  | ok observation =>
    obtain ⟨hmode, hterms⟩ := bound_ok hbound
    have hopen : ¬ CannotBeQuarantined record := fun hnot =>
      absurd (hmode.symm.trans hnot.1) (by decide)
    cases hstate : observedState record observation.status with
    | error reason =>
      rw [reconcile_contradicted hbound hstate, saveable_quarantine, quarantinable_iff hsaved]
      refine iff_of_true hopen ?_
      rintro (hnot | ⟨other, hother, -, hlost⟩)
      · exact hopen hnot
      · rw [hbound] at hother
        cases hother
        exact observedState_error hstate hlost
    | ok state =>
      rw [reconcile_observed hbound hstate]
      have hdeal : SameDeal record (observedRecord record observation state now) := by
        constructor <;> rfl
      have hbindings : assertRfqV3LifecycleBindings host
          (observedRecord record observation state now) = .ok () := by
        rw [← hsaved.2]
        exact v2Bindings_congr hmode hmode ⟨rfl, rfl, rfl, rfl⟩ rfl rfl rfl take_confirmedAttempts
      have hattempts : (observedRecord record observation state now).attempts =
          confirmedAttempts record.attempts observation.status observation.dealId now := rfl
      unfold Saveable
      rw [and_iff_left hbindings, hdeal.fit, hattempts,
        confirmed_fit_iff hterms (attemptsFit_iff.mp hsaved.1), observedState_filled hstate]
      refine not_congr ⟨fun hlost => .inr ⟨observation, hbound, hlost⟩, ?_⟩
      rintro (hnot | ⟨other, hother, hlost⟩)
      · exact absurd hnot hopen
      · rw [hbound] at hother
        cases hother
        exact hlost

/-! ## Takes -/

theorem confirm_saveable {take : TakeObservation} {now : Int} (hsaved : Saveable host record)
    (h : confirmRfqV3Take host record take now = .ok next) : Saveable host next := by
  obtain ⟨hmode, hstate, hquarantined | ⟨updated, patch, -, hsettled⟩⟩ := confirm_ok h
  · obtain ⟨reason, rfl⟩ := hquarantined
    -- A take that is contradicted quarantines a record that still has its key.
    rw [saveable_quarantine, quarantinable_iff hsaved]
    rintro ⟨-, ⟨hkey, -⟩ | hdigest⟩
    · rw [hstate] at hkey
      cases hkey
    · have hdraft : record.state ≠ .draft := by
        rw [hstate]
        decide
      rw [v3Bindings_digest hmode hdraft hsaved.2] at hdigest
      cases hdigest
  · exact transition_valid hsettled

theorem revert_saveable {now : Int} {observation : Text}
    (h : revertRfqV3Take host record now observation = .ok next) : Saveable host next := by
  obtain ⟨updated, patch, reason, -, hexpired⟩ := revert_ok h
  exact transition_valid hexpired

/-! ## Other observations -/

theorem expiry_saveable {expiredAt : Int} (hsaved : Saveable host record)
    (h : observeLocalSettlementExpiry record expiredAt = .ok next) : Saveable host next := by
  unfold observeLocalSettlementExpiry at h
  split at h
  · rename_i hstate hsettlement
    simp only [checkedTimestamp, bind_ok, throwIf_ok, exists_unit, pure_ok] at h
    obtain ⟨_, ⟨-, rfl⟩, -, rfl⟩ := h
    refine ⟨(SameDeal.targets (by constructor <;> rfl) rfl).trans hsaved.1, ?_⟩
    cases hmode : record.mode with
    | v2 =>
      rw [← hsaved.2]
      exact v2Bindings_congr hmode hmode ⟨rfl, rfl, rfl, rfl⟩ rfl rfl rfl rfl
    | v3 =>
      have hbefore : record.state ∉ v3SelectedStates := by
        rw [hstate]
        decide
      have hbindings := (v3Bindings_iff hmode hbefore).mp hsaved.2
      rw [v3Bindings_iff (by exact hmode) (by decide : RfqLifecycleState.refundable ∉ _)]
      refine ⟨?_, fun _ => hbindings.2 (by rw [hstate]; decide)⟩
      rw [← hbindings.1]
      refine v3KeysValid_congr ⟨rfl, rfl, rfl, rfl⟩ ?_
      rw [hstate]
      rfl
  · cases h

def reorgedBy (record : RfqLifecycleRecord) (signal : RfqEvidenceAuthority) : RfqLifecycleRecord :=
  reviseRfqLifecycle record
    { state := some .reorged
      evidenceAuthority := some signal
      updatedAt := some signal.observedAt
      reason := some (some "Authority reported canonical membership loss.".toList) }

theorem authority_saveable_iff {signal : RfqEvidenceAuthority} (hsaved : Saveable host record)
    (h : applyRfqAuthoritySignal record signal = .ok next) :
    Saveable host next ↔ ¬ Loses host record (.authority signal) := by
  unfold applyRfqAuthoritySignal at h
  simp only [bind_ok, throwIf_ok, exists_unit] at h
  obtain ⟨-, h⟩ := h
  split at h
  · rename_i hreorged
    simp only [bind_ok, throwIf_ok, exists_unit, pure_ok] at h
    obtain ⟨hterminal, rfl⟩ := h
    rw [Decidable.not_and_iff_or_not, not_not, not_not] at hterminal
    have hdeal : SameDeal record (reorgedBy record signal) := by constructor <;> rfl
    change Saveable host (reorgedBy record signal) ↔ _
    unfold Saveable Loses
    rw [hdeal.targets rfl, and_iff_right hsaved.1]
    cases hmode : record.mode with
    | v2 =>
      refine iff_of_true ?_ fun hnot => (by cases hnot.2.1)
      rw [← hsaved.2]
      exact v2Bindings_congr hmode hmode ⟨rfl, rfl, rfl, rfl⟩ rfl rfl rfl rfl
    | v3 =>
      have hvalid := v3Bindings_keys hmode hsaved.2
      have hdigest := v3Bindings_digest hmode
        (by rcases hterminal with hs | hs <;> rw [hs] <;> decide) hsaved.2
      have hgone : v3StateKeepsSigningKey (reorgedBy record signal).state = false := rfl
      rw [v3Bindings_iff (hdeal.mode.trans hmode) (by decide : RfqLifecycleState.reorged ∉ _),
        and_iff_left (by exact fun _ => hdigest), v3KeysValid_iff (reorgedBy record signal) hvalid
        ⟨rfl, rfl, rfl, rfl⟩, hgone]
      rcases hterminal with hs | hs
      · refine iff_of_true (.inl ?_) fun hnot => ?_
        · rw [hs]
          rfl
        · rw [hs] at hnot
          cases hnot.2.2.1
      · rw [hs]
        cases hb : record.restoredFromBackup with
        | true => exact iff_of_true (.inr rfl) fun hnot => (by cases hnot.2.2.2)
        | false =>
          refine iff_of_false (fun hor => ?_) (not_not.mpr ⟨hreorged, rfl, rfl, rfl⟩)
          rcases hor with hor | hor <;> cases hor
  · cases h
    refine iff_of_true ?_ fun hnot => absurd hnot.1 ‹_›
    refine ⟨(SameDeal.targets (by constructor <;> rfl) rfl).trans hsaved.1, ?_⟩
    rw [← hsaved.2]
    exact bindings_of_attempts (by constructor <;> rfl) rfl ⟨rfl, rfl, rfl, rfl⟩ rfl fun _ => ⟨rfl, rfl⟩

/-! ## Restore -/

variable {context : RestoreContext}

/-- The record of which only the scope is left. -/
theorem blank_saveable {reason rfqId : Text} (h : quarantine host context reason rfqId = .ok next) :
    Saveable host next := by
  simp only [quarantine, bind_ok, pure_ok] at h
  obtain ⟨chainId, -, account, -, rfl⟩ := h
  constructor
  · rw [attemptTargets_iff]
    intro phase a ha
    simp only [Attempts.get_empty, Option.mem_def, reduceCtorEq] at ha
  · unfold assertRfqV3LifecycleBindings
    rfl

/-- A row that is consistent passes both validators. -/
theorem saveable_of_consistent (h : restoredConsistent host record = true) :
    Saveable host record := by
  unfold restoredConsistent restoredTargetsMatch at h
  simp only [Bool.and_eq_true, decide_eq_true_eq] at h
  exact h.1.2.1

theorem restoreRead_saveable_iff {read : RfqLifecycleRecord}
    (hread : parseRow host record.row context.fromBackup = some read)
    (h : restoreRead host read context = some next) :
    Saveable host next ↔ (RestoreQuarantines host record read context → Quarantinable host read) := by
  unfold restoreRead at h
  simp only [Option.bind_eq_bind, Option.bind_eq_some_iff, toOption_eq_some_iff] at h
  obtain ⟨chainId, hchainId, account, haccount, h⟩ := h
  cases hreason : quarantineReason host read chainId account with
  | some reason =>
    rw [hreason] at h
    simp only [Option.bind_eq_some_iff, Option.guard_eq_some', Option.pure_def, Option.some.injEq,
      exists_const] at h
    obtain ⟨hguard, rfl⟩ := h
    have hquarantines : RestoreQuarantines host record read context :=
      ⟨hread, chainId, account, hchainId, haccount, by rw [hreason]; exact Option.some_ne_none _,
        hguard⟩
    rw [saveable_quarantine]
    exact ⟨fun h _ => h, fun h => h hquarantines⟩
  | none =>
    have hfresh : ¬ RestoreQuarantines host record read context := by
      rintro ⟨-, otherChain, otherAccount, hother, hotherAccount, hnot, -⟩
      rw [hchainId, Except.ok.injEq] at hother
      rw [haccount, Except.ok.injEq] at hotherAccount
      rw [← hother, ← hotherAccount] at hnot
      exact hnot hreason
    refine iff_of_true ?_ fun hquarantines => absurd hquarantines hfresh
    rw [hreason] at h
    dsimp only at h
    split at h
    · exact transition_valid (toOption_eq_some_iff.mp h)
    · cases h
      apply saveable_of_consistent
      unfold quarantineReason at hreason
      split at hreason
      · cases hreason
      · split at hreason
        · cases hreason
        · split at hreason
          · cases hreason
          · rename_i hconsistent
            exact Bool.not_eq_false _ ▸ hconsistent

theorem restore_saveable_iff (h : restoreRfqLifecycle host record.row context = .ok next) :
    Saveable host next ↔ ¬ Loses host record (.restore context) := by
  unfold restoreRfqLifecycle at h
  unfold Loses
  cases hrestored : restoreRow host record.row context with
  | none =>
    rw [hrestored] at h
    refine iff_of_true (blank_saveable h) ?_
    rintro ⟨read, ⟨hread, chainId, account, hchainId, haccount, hreason, hguard⟩, -⟩
    rw [restoreRow_row, hread, Option.bind_some] at hrestored
    obtain ⟨reason, hreason⟩ := Option.ne_none_iff_exists'.mp hreason
    unfold restoreRead at hrestored
    simp [hchainId, haccount, hreason, Except.toOption, hguard] at hrestored
  | some restored =>
    rw [hrestored] at h
    cases h
    rw [restoreRow_row, Option.bind_eq_some_iff] at hrestored
    obtain ⟨read, hread, hrestored⟩ := hrestored
    rw [restoreRead_saveable_iff hread hrestored]
    constructor
    · rintro hquarantinable ⟨other, hquarantines, hnot⟩
      have hsame := hquarantines.1
      rw [hread, Option.some.injEq] at hsame
      rw [← hsame] at hquarantines hnot
      exact hnot (hquarantinable hquarantines)
    · intro hnone hquarantines
      by_contra hnot
      exact hnone ⟨read, hquarantines, hnot⟩

/-! ## Operations -/

theorem run_saveable_iff {op : LifecycleOperation} (hsaved : Saveable host record)
    (h : op.run host record = .ok next) : Saveable host next ↔ ¬ Loses host record op := by
  cases op with
  | transition state now patch => exact iff_of_true (transition_valid h) id
  | beginAttempt phase attemptId now target => exact iff_of_true (begin_saveable h) id
  | updateAttempt phase state now patch => exact update_saveable_iff hsaved h
  | confirmTake take now => exact iff_of_true (confirm_saveable hsaved h) id
  | revertTake now observation => exact iff_of_true (revert_saveable h) id
  | reconcile value now =>
    cases h
    exact reconcile_saveable_iff hsaved
  | quarantine now reason =>
    cases h
    rw [saveable_quarantine, quarantinable_iff hsaved]
    rfl
  | observeExpiry expiredAt => exact iff_of_true (expiry_saveable hsaved h) id
  | restore context => exact restore_saveable_iff h
  | authority signal => exact authority_saveable_iff hsaved h

/-! ## A record whose fill is first seen on the chain -/

def fundedRecord : RfqLifecycleRecord :=
  { plainRecord .funded with
    attempts := Attempts.empty.set .funding
      { attemptId := "f1".toList
        state := .confirmed
        createdAt := 10
        updatedAt := 12
        transactionHash := some "0x77".toList
        observation := none
        walletBoundary := some .entered
        target := some
          { chainId := localnetChainId
            account := "0x9".toList
            rfqId := "0x1".toList
            requestDigest := "0xd".toList
            operation := .fundingTicket
              { dealId := "0x1".toList
                solverId := "maker".toList
                reservationId := "r1".toList
                reservationFence := "1".toList
                quoteDigest := "q".toList
                sellToken := "0xa".toList
                sellAmount := "5".toList
                buyToken := "0xb".toList
                buyAmount := "7".toList
                deadline := 50 } } } }

/-- A v3 record that was cancelled, so that its key is gone. -/
def cancelledRecord : RfqLifecycleRecord :=
  { plainRecord .cancelled with
    mode := .v3
    terms := none
    selectedQuote := none
    settlement := none
    requestDigest := some ("0x".toList ++ List.replicate 64 'a')
    bucket := some ⟨"1".toList, "9".toList⟩
    takerCommitment := some "0x5".toList }

theorem run_saveable_iff_filled : ¬ Saveable plainHost
    (reconcileRfqLifecycleWithLocalDeal plainHost fundedRecord (plainDeal 2) 20) := by
  have hsaved : Saveable plainHost fundedRecord := by decide +kernel
  have hrun : (LifecycleOperation.reconcile (plainDeal 2) 20).run plainHost fundedRecord =
      .ok (reconcileRfqLifecycleWithLocalDeal plainHost fundedRecord (plainDeal 2) 20) := rfl
  rw [run_saveable_iff hsaved hrun, not_not]
  refine .inr ⟨⟨"0x1".toList, "0xe".toList, .filled, .filled, 20, some "0xa".toList,
    some "5".toList, some "0xb".toList, some "7".toList, some "7".toList, some 50,
    some "0xf".toList, none⟩, by decide +kernel, rfl, by decide, .inr ⟨rfl, by decide⟩⟩

/-- A maker's fill that is first seen on the chain makes a funded record claimable, and the record
that says so passes the validators no more; a cancelled v3 record that is quarantined does neither. -/
theorem run_outside_claim :
    (Saveable plainHost fundedRecord ∧
      (LifecycleOperation.reconcile (plainDeal 2) 20).run plainHost fundedRecord =
        .ok (reconcileRfqLifecycleWithLocalDeal plainHost fundedRecord (plainDeal 2) 20) ∧
      (reconcileRfqLifecycleWithLocalDeal plainHost fundedRecord (plainDeal 2) 20).state =
        .claimable ∧ ¬ Saveable plainHost
        (reconcileRfqLifecycleWithLocalDeal plainHost fundedRecord (plainDeal 2) 20)) ∧
    Saveable plainHost cancelledRecord ∧
      (LifecycleOperation.quarantine 20 []).run plainHost cancelledRecord =
        .ok (quarantineRecord cancelledRecord 20 []) ∧
      ¬ Saveable plainHost (quarantineRecord cancelledRecord 20 []) := by
  refine ⟨⟨by decide +kernel, rfl, by decide +kernel, by decide +kernel⟩, by decide +kernel, rfl,
    by decide +kernel⟩

end App20.Rfq
