import App20.Rfq.Phases
import App20.Rfq.Restore

/-!
# Operations of the lifecycle

What can be done to a record, and which of its results pass the validators that a save asks for.

* `saveable_quarantine`, `quarantinable_iff`: when a record in quarantine passes them.
* `AttemptsFit.set_iff`, `fits_iff_of_target`: when a record with another attempt passes them.
-/

namespace App20.Rfq

open App20.Lib App20.Domain
open App20.Otc (localnetChainId)

variable (host : Host)

/-- An operation on a record, with what it is called with. -/
inductive LifecycleOperation where
  | transition (state : RfqLifecycleState) (now : Int) (patch : LifecyclePatch)
  | beginAttempt (phase : Phase) (attemptId : Text) (now : Int) (target : Option AttemptTarget)
  | updateAttempt (phase : Phase) (state : AttemptState) (now : Int) (patch : AttemptPatch)
  | confirmTake (take : TakeObservation) (now : Int)
  | revertTake (now : Int) (observation : Text)
  | reconcile (value : Json) (now : Int)
  | quarantine (now : Int) (reason : Text)
  | observeExpiry (expiredAt : Int)
  | restore (context : RestoreContext)
  | authority (signal : RfqEvidenceAuthority)

def LifecycleOperation.run (op : LifecycleOperation) (record : RfqLifecycleRecord) :
    Except String RfqLifecycleRecord :=
  match op with
  | transition state now patch => transitionRfqLifecycle host record state now patch
  | beginAttempt phase attemptId now target =>
    beginRfqPhaseAttempt host record phase attemptId now target
  | updateAttempt phase state now patch => updateRfqPhaseAttempt record phase state now patch
  | confirmTake take now => confirmRfqV3Take host record take now
  | revertTake now observation => revertRfqV3Take host record now observation
  | reconcile value now => .ok (reconcileRfqLifecycleWithLocalDeal host record value now)
  | quarantine now reason => .ok (quarantineRecord record now reason)
  | observeExpiry expiredAt => observeLocalSettlementExpiry record expiredAt
  | restore context => restoreRfqLifecycle host record.row context
  | authority signal => applyRfqAuthoritySignal record signal

/-! ## Validators -/

/-- Both validators of a save pass. -/
def Saveable (record : RfqLifecycleRecord) : Prop :=
  assertRfqLifecycleAttemptTargets host record = .ok () ∧
    assertRfqV3LifecycleBindings host record = .ok ()

instance (record : RfqLifecycleRecord) : Decidable (Saveable host record) :=
  inferInstanceAs (Decidable (_ ∧ _))

variable {host}
variable {record next : RfqLifecycleRecord}

theorem forM_ok_iff {α : Type} {f : α → Except String Unit} {xs : List α} :
    xs.forM f = .ok () ↔ ∀ x ∈ xs, f x = .ok () := by
  induction xs with
  | nil => simp [List.forM_nil, pure, Except.pure]
  | cons x xs ih =>
    change (f x >>= fun _ => xs.forM f) = .ok () ↔ _
    rw [bind_ok, exists_unit, ih, List.forall_mem_cons]

theorem attemptTargets_iff : assertRfqLifecycleAttemptTargets host record = .ok () ↔
    ∀ phase, ∀ a ∈ record.attempts.get phase, assertAttemptTarget host record phase a = .ok () := by
  unfold assertRfqLifecycleAttemptTargets
  rw [forM_ok_iff]
  constructor
  · intro h phase a ha
    have hphase := h phase (Phase.mem_all phase)
    rw [Option.mem_def.mp ha] at hphase
    exact hphase
  · intro h phase _
    cases hget : record.attempts.get phase with
    | none => rfl
    | some a => exact h phase a hget

/-- What a record says that the check of a target compares with. -/
structure SameDeal (record next : RfqLifecycleRecord) : Prop where
  mode : next.mode = record.mode
  chainId : next.chainId = record.chainId
  account : next.account = record.account
  rfqId : next.rfqId = record.rfqId
  requestDigest : next.requestDigest = record.requestDigest
  terms : next.terms = record.terms
  selectedQuote : next.selectedQuote = record.selectedQuote
  settlement : next.settlement = record.settlement
  fills : next.fills = record.fills

section

variable (h : SameDeal record next)

include h

theorem SameDeal.common (target : AttemptTarget) :
    targetCommonMatchesRecord host next target = targetCommonMatchesRecord host record target := by
  unfold targetCommonMatchesRecord
  rw [h.chainId, h.account, h.rfqId, h.requestDigest]

theorem SameDeal.takeTarget :
    takeAttemptTargetFromLifecycle next = takeAttemptTargetFromLifecycle record := by
  unfold takeAttemptTargetFromLifecycle
  rw [h.mode, h.requestDigest, h.terms, h.settlement, h.fills, h.chainId, h.account, h.rfqId]

theorem SameDeal.operation (phase : Phase) (target : AttemptTarget) :
    assertTargetOperation host next phase target = assertTargetOperation host record phase target := by
  unfold assertTargetOperation settlementTargetMatchesRecord takeTargetMatchesRecord
  simp only [h.common, h.terms, h.selectedQuote, h.settlement, h.requestDigest, h.takeTarget]

theorem SameDeal.attempt (phase : Phase) (a : PhaseAttempt) :
    assertAttemptTarget host next phase a = assertAttemptTarget host record phase a := by
  unfold assertAttemptTarget hashOnly
  simp only [h.mode, h.terms, h.settlement, h.common, h.operation]

theorem SameDeal.targets (hattempts : next.attempts = record.attempts) :
    assertRfqLifecycleAttemptTargets host next = assertRfqLifecycleAttemptTargets host record := by
  unfold assertRfqLifecycleAttemptTargets
  simp only [h.attempt, hattempts]

end

/-! ## Quarantine -/

structure SameTaker (record next : RfqLifecycleRecord) : Prop where
  bucket : next.bucket = record.bucket
  commitment : next.takerCommitment = record.takerCommitment
  key : next.takerSigningKey = record.takerSigningKey
  backup : next.restoredFromBackup = record.restoredFromBackup

theorem v3KeysValid_congr (htaker : SameTaker record next)
    (hrequired : (v3StateKeepsSigningKey next.state && !record.restoredFromBackup) =
      (v3StateKeepsSigningKey record.state && !record.restoredFromBackup)) :
    v3KeysValid host next = v3KeysValid host record := by
  unfold v3KeysValid
  simp only [htaker.bucket, htaker.commitment, htaker.key, htaker.backup, hrequired]

theorem v2Bindings_congr (hmode : record.mode = .v2) (hnext : next.mode = .v2)
    (htaker : SameTaker record next) (hfills : next.fills = record.fills)
    (hhash : next.takeTransactionHash = record.takeTransactionHash)
    (hacknowledgements : next.transcriptAcknowledgements = record.transcriptAcknowledgements)
    (htake : next.attempts.take = record.attempts.take) :
    assertRfqV3LifecycleBindings host next = assertRfqV3LifecycleBindings host record := by
  unfold assertRfqV3LifecycleBindings
  rw [hmode, hnext]
  simp only [htaker.bucket, htaker.commitment, htaker.key, htaker.backup, hfills, hhash,
    hacknowledgements, htake]

theorem v3Bindings_iff (hmode : record.mode = .v3) (hstate : record.state ∉ v3SelectedStates) :
    assertRfqV3LifecycleBindings host record = .ok () ↔ v3KeysValid host record = true ∧
      (record.state ≠ .draft → isRequestDigest record.requestDigest = true) := by
  unfold assertRfqV3LifecycleBindings
  rw [hmode]
  simp only [bind_ok, throwIf_ok, exists_unit, if_pos hstate]
  constructor
  · rintro ⟨hkeys, hdigest⟩
    refine ⟨Bool.not_eq_false _ ▸ hkeys, fun hdraft => ?_⟩
    by_contra hnot
    exact hdigest ⟨hdraft, Bool.eq_false_iff.mpr hnot⟩
  · rintro ⟨hkeys, hdigest⟩
    refine ⟨Bool.not_eq_false _ ▸ hkeys, fun hbad => ?_⟩
    rw [hdigest hbad.1] at hbad
    exact absurd hbad.2 (by decide)

/-- There is a key exactly where one is required. -/
theorem v3KeysValid_key (h : v3KeysValid host record = true) :
    record.takerSigningKey.isSome =
      (v3StateKeepsSigningKey record.state && !record.restoredFromBackup) := by
  unfold v3KeysValid at h
  simp only [Bool.and_eq_true] at h
  cases hkey : record.takerSigningKey with
  | none =>
    rw [hkey] at h
    have hrequired := h.2
    simp only [Bool.not_eq_true'] at hrequired
    exact hrequired.symm
  | some key =>
    rw [hkey] at h
    have hrequired := h.2
    simp only [Bool.and_eq_true] at hrequired
    rw [Option.isSome_some, hrequired.1.2.1, hrequired.1.2.2]
    rfl

/-- The keys are valid in another state if it keeps the key as well, or none is kept of a backup. -/
theorem v3KeysValid_iff (next : RfqLifecycleRecord) (h : v3KeysValid host record = true)
    (htaker : SameTaker record next) :
    v3KeysValid host next = true ↔
      v3StateKeepsSigningKey next.state = v3StateKeepsSigningKey record.state ∨
        record.restoredFromBackup = true := by
  constructor
  · intro hnext
    have hbefore := v3KeysValid_key h
    have hafter := v3KeysValid_key hnext
    rw [htaker.key, hbefore, htaker.backup] at hafter
    cases hb : record.restoredFromBackup with
    | true => exact .inr rfl
    | false =>
      rw [hb, Bool.not_false, Bool.and_true, Bool.and_true] at hafter
      exact .inl hafter.symm
  · intro hkeeps
    rw [← h]
    refine v3KeysValid_congr htaker ?_
    rcases hkeeps with hkeeps | hb
    · rw [hkeeps]
    · rw [hb, Bool.not_true, Bool.and_false, Bool.and_false]

theorem v3Bindings_keys (hmode : record.mode = .v3)
    (h : assertRfqV3LifecycleBindings host record = .ok ()) : v3KeysValid host record = true := by
  unfold assertRfqV3LifecycleBindings at h
  rw [hmode] at h
  simp only [bind_ok, throwIf_ok, exists_unit] at h
  exact Bool.not_eq_false _ ▸ h.1

theorem v3Bindings_digest (hmode : record.mode = .v3) (hdraft : record.state ≠ .draft)
    (h : assertRfqV3LifecycleBindings host record = .ok ()) :
    isRequestDigest record.requestDigest = true := by
  by_cases hstate : record.state ∈ v3SelectedStates
  · unfold assertRfqV3LifecycleBindings at h
    rw [hmode] at h
    simp only [bind_ok, throwIf_ok, exists_unit, not_true, hstate, if_false] at h
    exact Bool.not_eq_false _ ▸ h.2.1
  · exact ((v3Bindings_iff hmode hstate).mp h).2 hdraft

/-- The record in quarantine, with nothing else changed. -/
def inQuarantine (record : RfqLifecycleRecord) : RfqLifecycleRecord :=
  { record with state := .quarantined }

/-- A record that passes the validators once it is quarantined: its targets fit, and a v3 record has
its request digest, and its key unless it is from a backup. -/
def Quarantinable (host : Host) (record : RfqLifecycleRecord) : Prop :=
  assertRfqLifecycleAttemptTargets host record = .ok () ∧ match record.mode with
    | .v2 => assertRfqV3LifecycleBindings host record = .ok ()
    | .v3 => v3KeysValid host (inQuarantine record) = true ∧
        isRequestDigest record.requestDigest = true

theorem saveable_quarantine (now : Int) (reason : Text) :
    Saveable host (quarantineRecord record now reason) ↔ Quarantinable host record := by
  have hdeal : SameDeal record (quarantineRecord record now reason) := by constructor <;> rfl
  unfold Saveable Quarantinable
  rw [hdeal.targets rfl]
  refine and_congr_right fun _ => ?_
  cases hmode : record.mode with
  | v2 =>
    rw [v2Bindings_congr hmode (hdeal.mode.trans hmode) ⟨rfl, rfl, rfl, rfl⟩ rfl rfl rfl rfl]
  | v3 =>
    rw [v3Bindings_iff (hdeal.mode.trans hmode) (by decide : RfqLifecycleState.quarantined ∉ _)]
    have hkeys : v3KeysValid host (quarantineRecord record now reason) =
        v3KeysValid host (inQuarantine record) := v3KeysValid_congr ⟨rfl, rfl, rfl, rfl⟩ rfl
    rw [hkeys]
    exact and_congr_right fun _ => ⟨fun h =>
      h (show RfqLifecycleState.quarantined ≠ .draft by decide), fun h _ => h⟩

/-- The key or the request digest that a quarantined v3 record has to have is gone, or was never
there. -/
def CannotBeQuarantined (record : RfqLifecycleRecord) : Prop :=
  record.mode = .v3 ∧
    ((v3StateKeepsSigningKey record.state = false ∧ record.restoredFromBackup = false) ∨
      isRequestDigest record.requestDigest = false)

theorem quarantinable_iff (h : Saveable host record) :
    Quarantinable host record ↔ ¬ CannotBeQuarantined record := by
  unfold Quarantinable CannotBeQuarantined
  cases hmode : record.mode with
  | v2 =>
    refine ⟨fun _ hnot => (by cases hnot.1), fun _ => h⟩
  | v3 =>
    have hkeys : v3KeysValid host (inQuarantine record) = true ↔
        ¬ (v3StateKeepsSigningKey record.state = false ∧ record.restoredFromBackup = false) := by
      have hkeeps : v3StateKeepsSigningKey (inQuarantine record).state = true := rfl
      rw [v3KeysValid_iff (inQuarantine record) (v3Bindings_keys hmode h.2) ⟨rfl, rfl, rfl, rfl⟩,
        hkeeps, not_and_or,
        Bool.not_eq_false, Bool.not_eq_false, eq_comm]
    dsimp only
    rw [and_iff_right h.1, hkeys, ← Bool.not_eq_false, ← not_or]
    exact ⟨fun hnot hgone => hnot hgone.2, fun hnot hgone => hnot ⟨rfl, hgone⟩⟩

/-! ## Attempts -/

theorem SameDeal.selected (h : SameDeal record next) (hbucket : next.bucket = record.bucket) :
    assertV3Selected host next = assertV3Selected host record := by
  unfold assertV3Selected
  rw [h.terms, h.settlement, h.fills, h.rfqId, h.takeTarget, hbucket]

theorem SameDeal.v3Bindings (h : SameDeal record next) (hmode : record.mode = .v3)
    (hstate : next.state = record.state) (htaker : SameTaker record next) :
    assertRfqV3LifecycleBindings host next = assertRfqV3LifecycleBindings host record := by
  have hkeys : v3KeysValid host next = v3KeysValid host record :=
    v3KeysValid_congr htaker (by rw [hstate])
  unfold assertRfqV3LifecycleBindings
  rw [hmode, h.mode.trans hmode]
  simp only [hkeys, hstate, h.requestDigest, h.selected htaker.bucket]

def AttemptsFit (host : Host) (record : RfqLifecycleRecord) (attempts : Attempts) : Prop :=
  ∀ phase, ∀ a ∈ attempts.get phase, assertAttemptTarget host record phase a = .ok ()

theorem attemptsFit_iff : assertRfqLifecycleAttemptTargets host record = .ok () ↔
    AttemptsFit host record record.attempts := attemptTargets_iff

theorem SameDeal.fit (h : SameDeal record next) :
    assertRfqLifecycleAttemptTargets host next = .ok () ↔
      AttemptsFit host record next.attempts := by
  rw [attemptsFit_iff]
  unfold AttemptsFit
  simp only [h.attempt]

theorem AttemptsFit.set_iff {attempts : Attempts} {phase : Phase} {a : PhaseAttempt}
    (h : AttemptsFit host record attempts) :
    AttemptsFit host record (attempts.set phase a) ↔
      assertAttemptTarget host record phase a = .ok () := by
  refine ⟨fun hset => hset phase a (Attempts.get_set_self _ _ _), fun ha other b hb => ?_⟩
  by_cases hother : other = phase
  · rw [hother, Attempts.get_set_self, Option.mem_def, Option.some.injEq] at hb
    rw [hother, ← hb]
    exact ha
  · rw [Attempts.get_set_of_ne _ _ hother] at hb
    exact h other b hb

theorem fits_iff_of_target {phase : Phase} {a b : PhaseAttempt}
    (ha : assertAttemptTarget host record phase a = .ok ()) (htarget : b.target = a.target) :
    assertAttemptTarget host record phase b = .ok () ↔ ¬ (phase = .funding ∧ a.target = none ∧
        ¬ (b.state = .submittedUnknown ∧ given b.transactionHash = true)) := by
  unfold assertAttemptTarget at ha ⊢
  rw [htarget]
  by_cases hpayout : phase = .claim ∨ phase = .refund
  · rw [if_pos hpayout] at ha ⊢
    refine iff_of_true ha fun hnot => ?_
    rw [hnot.1] at hpayout
    rcases hpayout with hp | hp <;> cases hp
  · rw [if_neg hpayout] at ha ⊢
    cases ht : a.target with
    | some target =>
      rw [ht] at ha
      exact iff_of_true ha fun hnot => (by cases hnot.2.1)
    | none =>
      rw [ht] at ha
      simp only [bind_ok, throwIf_ok, exists_unit, not_not] at ha ⊢
      obtain ⟨hmode, hlegacy, hphase, hhash⟩ := ha
      unfold hashOnly at hhash ⊢
      simp only [Bool.and_eq_true, decide_eq_true_eq] at hhash ⊢
      constructor
      · rintro ⟨-, -, -, ⟨⟨hstate, hgiven⟩, -⟩, -⟩ ⟨-, -, hnot⟩
        exact hnot ⟨hstate, hgiven⟩
      · intro hnot
        have hboth : b.state = .submittedUnknown ∧ given b.transactionHash = true := by
          by_contra hcontra
          exact hnot ⟨hphase, trivial, hcontra⟩
        exact ⟨hmode, hlegacy, hphase, ⟨hboth, hhash.1.2⟩, hhash.2⟩

/-- With exact terms every attempt that fits has its target, but for payouts. -/
theorem target_of_terms {phase : Phase} {a : PhaseAttempt} (hterms : record.terms ≠ none)
    (hpayout : ¬ (phase = .claim ∨ phase = .refund))
    (ha : assertAttemptTarget host record phase a = .ok ()) : a.target ≠ none := by
  intro ht
  unfold assertAttemptTarget at ha
  rw [if_neg hpayout, ht] at ha
  simp only [bind_ok, throwIf_ok, exists_unit, not_not] at ha
  have hhash := ha.2.2.2
  unfold hashOnly at hhash
  simp only [Bool.and_eq_true, Option.isNone_iff_eq_none] at hhash
  exact hterms hhash.1.2

/-! ## Reconciliation -/

section

variable {attempts : Attempts} {phase : Phase} {label : String} {dealId : Text} {now : Int}

/-- An attempt after its outcome was observed. -/
def confirmed (a : PhaseAttempt) (label : String) (now : Int) : PhaseAttempt :=
  { a with state := .confirmed, updatedAt := now, observation := some label.toList }

theorem AttemptsFit.confirm (hterms : record.terms ≠ none)
    (h : AttemptsFit host record attempts) (hphase : phase ≠ .reservationRelease ∧ phase ≠ .take)
    (hfill : phase = .fill → attempts.fill ≠ none) :
    AttemptsFit host record (confirmAttempt attempts phase label dealId now) := by
  unfold confirmAttempt
  cases hget : attempts.get phase with
  | none =>
    dsimp only
    split
    · exact h
    · rename_i hfunding
      rw [h.set_iff]
      have hpayout : phase = .claim ∨ phase = .refund := by
        cases phase with
        | funding => exact absurd rfl hfunding
        | fill => exact absurd hget (hfill rfl)
        | claim => exact .inl rfl
        | refund => exact .inr rfl
        | reservationRelease => exact absurd rfl hphase.1
        | take => exact absurd rfl hphase.2
      unfold assertAttemptTarget
      rw [if_pos hpayout]
      rfl
  | some a =>
    dsimp only
    split
    · exact h
    · rw [h.set_iff]
      have ha := h phase a hget
      by_cases hpayout : phase = .claim ∨ phase = .refund
      · unfold assertAttemptTarget at ha ⊢
        rw [if_pos hpayout] at ha ⊢
        exact ha
      · have hkeeps : (confirmed a label now).target = a.target := rfl
        exact (fits_iff_of_target ha hkeeps).mpr fun hnot =>
          target_of_terms hterms hpayout ha hnot.2.1

theorem not_fit_of_fill {a : PhaseAttempt} (hfill : attempts.fill = some a)
    (htarget : a.target = none) : ¬ AttemptsFit host record attempts := by
  intro hfit
  have hbad := hfit .fill a hfill
  unfold assertAttemptTarget at hbad
  rw [if_neg (by decide : ¬ (Phase.fill = .claim ∨ Phase.fill = .refund)), htarget] at hbad
  simp only [bind_ok, throwIf_ok, exists_unit] at hbad
  exact hbad.2.2 fun hnot => (by cases hnot.1)

end

end App20.Rfq
