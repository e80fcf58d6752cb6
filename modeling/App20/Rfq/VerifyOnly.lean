import App20.Rfq.Closure
import App20.Rfq.HistoryBackup
import App20.Rfq.TakeRuns
import Mathlib.Data.List.ReduceOption

/-!
# Records restored from a backup

An imported v3 record carries the mark of its backup and no key, and so does whatever later operations
and saves make of it, as long as no patch takes the mark or the mode away: it can neither be submitted
nor begin an attempt. An imported v2 record carries no mark.

* `imported_verifyOnly`: every v3 record of an accepted import, after any later operations and saves.
-/

namespace App20.Rfq

open App20.Lib App20.Domain
open App20.Otc (localnetChainId)

/-! ## What is claimed -/

/-- The attempts that move value; a release gives back what is reserved. -/
def Phase.movesValue (phase : Phase) : Bool := decide (phase ≠ .reservationRelease)

structure VerifyOnly (host : Host) (record : RfqLifecycleRecord) : Prop where
  key : record.takerSigningKey = none
  submit : ∀ now, lifecycleMaySubmit record now = false
  begins : ∀ phase attemptId now target next, phase.movesValue = true →
    beginRfqPhaseAttempt host record phase attemptId now target ≠ .ok next

/-- A transition's patch leaves the mode and the mark of a backup. -/
def KeepsBackup : LifecycleOperation → Prop
  | .transition _ _ patch => patch.mode ≠ some .v2 ∧ patch.restoredFromBackup ≠ some false
  | _ => True

/-- What later operations and saves make of a record. A row that cannot be read any more leaves a
record of another id, which is not followed. -/
inductive Later (host : Host) (start : RfqLifecycleRecord) : RfqLifecycleRecord → Prop
  | start : Later host start start
  | operation {record next : RfqLifecycleRecord} (op : LifecycleOperation) :
    Later host start record → KeepsBackup op → op.run host record = .ok next →
    next.rfqId ≠ malformedLocalRecord → Later host start next
  | saved {record saved : RfqLifecycleRecord} (existing : Option RfqStoredRow) :
    Later host start record → saveRecord host existing record = .ok saved → Later host start saved
  | persisted {record : RfqLifecycleRecord} : Later host start record →
    Later host start (markRfqLifecyclePersisted record)

/-! ## The mark -/

/-- A v3 record of a backup. -/
structure Marked (record : RfqLifecycleRecord) : Prop where
  mode : record.mode = .v3
  backup : record.restoredFromBackup = true
  key : record.takerSigningKey = none

variable {host : Host} {record next : RfqLifecycleRecord}

theorem Marked.verifyOnly (h : Marked record) : VerifyOnly host record := by
  refine ⟨h.key, fun now => ?_, fun phase attemptId now target next hmoves hbegin => ?_⟩
  · unfold lifecycleMaySubmit
    dsimp only
    rw [h.backup, Bool.not_true, Bool.and_false, Bool.false_and, Bool.false_and, Bool.false_and]
  · obtain ⟨hphase, -, hkey, -⟩ := begin_ok hbegin
    have hbackup := (hkey (hphase.mp h.mode)).1
    rw [h.backup] at hbackup
    cases hbackup

theorem no_key_of_backup (hmode : record.mode = .v3) (hbackup : record.restoredFromBackup = true)
    (hbindings : assertRfqV3LifecycleBindings host record = .ok ()) :
    record.takerSigningKey = none := by
  have hkey := v3KeysValid_key (v3Bindings_keys hmode hbindings)
  rw [hbackup, Bool.not_true, Bool.and_false] at hkey
  exact Option.isNone_iff_eq_none.mp (by rw [← Option.not_isSome, hkey]; rfl)

variable {now : Int}

theorem Marked.transition {state : RfqLifecycleState} {patch : LifecyclePatch} (h : Marked record)
    (hmode : patch.mode ≠ some .v2) (hbackup : patch.restoredFromBackup ≠ some false)
    (hnext : transitionRfqLifecycle host record state now patch = .ok next) : Marked next := by
  have hnextMode : next.mode = .v3 := by
    rw [(transition_ok hnext).1]
    change patch.mode.getD record.mode = .v3
    cases hp : patch.mode with
    | none => exact h.mode
    | some mode =>
      cases mode with
      | v2 => exact absurd hp hmode
      | v3 => rfl
  have hnextBackup : next.restoredFromBackup = true := by
    rw [(transition_ok hnext).1]
    change patch.restoredFromBackup.getD record.restoredFromBackup = true
    cases hp : patch.restoredFromBackup with
    | none => exact h.backup
    | some b =>
      cases b with
      | false => exact absurd hp hbackup
      | true => rfl
  exact ⟨hnextMode, hnextBackup, no_key_of_backup hnextMode hnextBackup (transition_valid hnext).2⟩

theorem Marked.update {phase : Phase} {state : AttemptState} {patch : AttemptPatch}
    (h : Marked record) (hnext : updateRfqPhaseAttempt record phase state now patch = .ok next) :
    Marked next := by
  obtain ⟨current, -, -, rfl⟩ := update_ok hnext
  exact ⟨h.mode, h.backup, h.key⟩

/-- An edit that says nothing of the mark. -/
theorem Marked.revise {patch : LifecyclePatch} (h : Marked record) (hmode : patch.mode = none)
    (hbackup : patch.restoredFromBackup = none) (hkey : patch.takerSigningKey = none) :
    Marked (reviseRfqLifecycle record patch) := by
  refine ⟨?_, ?_, ?_⟩
  · change patch.mode.getD record.mode = .v3
    rw [hmode]
    exact h.mode
  · change patch.restoredFromBackup.getD record.restoredFromBackup = true
    rw [hbackup]
    exact h.backup
  · change patch.takerSigningKey.getD record.takerSigningKey = none
    rw [hkey]
    exact h.key

theorem Marked.quarantine (h : Marked record) (now : Int) (reason : Text) :
    Marked (quarantineRecord record now reason) := h.revise rfl rfl rfl

/-! ## Rows -/

theorem Marked.parseRow {read : RfqLifecycleRecord} {fromBackup : Bool} (h : Marked record)
    (hread : parseRow host record.row fromBackup = some read) : Marked read := by
  obtain ⟨hmode, hbackup, hkey⟩ := parseRow_marks read hread
  rw [parseMode_row, h.mode, Option.some.injEq] at hmode
  rw [row_backup, h.backup, if_pos rfl, ← hmode] at hbackup
  have hmarked : read.restoredFromBackup = true := by
    rw [hbackup]
    cases fromBackup <;> rfl
  refine ⟨hmode.symm, hmarked, ?_⟩
  unfold parseSigningKey at hkey
  rw [if_pos (.inr hmarked), Option.some.injEq] at hkey
  exact hkey.symm

/-- A restore that reads the row leaves the mark; what else it leaves is of another id. -/
theorem Marked.restore {context : RestoreContext} (h : Marked record)
    (hnext : restoreRfqLifecycle host record.row context = .ok next)
    (hid : next.rfqId ≠ malformedLocalRecord) : Marked next := by
  unfold restoreRfqLifecycle at hnext
  cases hrestored : restoreRow host record.row context with
  | none =>
    rw [hrestored] at hnext
    simp only [App20.Rfq.quarantine, bind_ok, pure_ok] at hnext
    obtain ⟨chainId, -, account, -, rfl⟩ := hnext
    exact absurd rfl hid
  | some restored =>
    rw [hrestored] at hnext
    cases hnext
    rw [restoreRow_row, Option.bind_eq_some_iff] at hrestored
    obtain ⟨read, hread, hrestored⟩ := hrestored
    have hmarked := h.parseRow hread
    revert hrestored
    unfold restoreRead
    refine read_bind (fun chainId _ => read_bind fun account _ => ?_) next
    split
    · refine read_bind fun _ _ => ?_
      rintro _ ⟨⟩
      exact hmarked.quarantine _ _
    · split
      · intro expired hexpired
        refine hmarked.transition ?_ ?_ (toOption_eq_some_iff.mp hexpired)
        · exact fun hnot => by cases hnot
        · exact fun hnot => by cases hnot
      · rintro _ ⟨⟩
        exact hmarked

/-! ## Operations -/

theorem Marked.operation {op : LifecycleOperation} (h : Marked record) (hkeeps : KeepsBackup op)
    (hnext : op.run host record = .ok next) (hid : next.rfqId ≠ malformedLocalRecord) :
    Marked next := by
  cases op with
  | transition state now patch => exact h.transition hkeeps.1 hkeeps.2 hnext
  | beginAttempt phase attemptId now target =>
    obtain ⟨hphase, -, hkey, -⟩ := begin_ok hnext
    have hbackup := (hkey (hphase.mp h.mode)).1
    rw [h.backup] at hbackup
    cases hbackup
  | updateAttempt phase state now patch => exact h.update hnext
  | confirmTake take now =>
    obtain ⟨-, -, ⟨reason, rfl⟩ | ⟨updated, patch, hupdated, hsettled⟩⟩ := confirm_ok hnext
    · exact h.quarantine now reason
    · exact (h.update hupdated).transition (fun hnot => by cases hnot) (fun hnot => by cases hnot)
        hsettled
  | revertTake now observation =>
    obtain ⟨updated, patch, reason, hupdated, hexpired⟩ := revert_ok hnext
    exact (h.update hupdated).transition (fun hnot => by cases hnot) (fun hnot => by cases hnot)
      hexpired
  | reconcile value now =>
    cases hnext
    have hunbound : boundObservation host record value now =
        .error "RFQ v3 must reconcile through its exact Take observation." := by
      unfold boundObservation
      rw [if_pos h.mode]
    rw [reconcile_unbound hunbound]
    exact h.quarantine now _
  | quarantine now reason =>
    cases hnext
    exact h.quarantine now reason
  | observeExpiry expiredAt =>
    simp only [LifecycleOperation.run, observeLocalSettlementExpiry] at hnext
    split at hnext
    · simp only [bind_ok, throwIf_ok, exists_unit, pure_ok] at hnext
      obtain ⟨_, -, -, rfl⟩ := hnext
      exact h.revise rfl rfl rfl
    · cases hnext
  | restore context =>
    unfold LifecycleOperation.run at hnext
    exact h.restore hnext hid
  | authority signal =>
    simp only [LifecycleOperation.run, applyRfqAuthoritySignal, bind_ok, throwIf_ok,
      exists_unit] at hnext
    obtain ⟨-, hnext⟩ := hnext
    split at hnext
    · simp only [bind_ok, throwIf_ok, exists_unit, pure_ok] at hnext
      obtain ⟨-, rfl⟩ := hnext
      exact h.revise rfl rfl rfl
    · cases hnext
      exact h.revise rfl rfl rfl

theorem Marked.saved {existing : Option RfqStoredRow} {saved : RfqLifecycleRecord}
    (h : Marked record) (hsaved : saveRecord host existing record = .ok saved) : Marked saved := by
  simp only [saveRecord, bind_ok, exists_unit, pure_ok] at hsaved
  obtain ⟨canonical, hcanonical, -, -, -, rfl⟩ := hsaved
  have hlife := canonicalize_life hcanonical
  exact ⟨hlife.mode.trans h.mode, hlife.backup.trans h.backup, hlife.key.trans h.key⟩

theorem Marked.later {start : RfqLifecycleRecord} (h : Marked start)
    (hlater : Later host start record) : Marked record := by
  induction hlater with
  | start => exact h
  | operation op _ hkeeps hrun hid ih => exact ih.operation hkeeps hrun hid
  | saved existing _ hsaved ih => exact ih.saved hsaved
  | persisted _ ih => exact ⟨ih.mode, ih.backup, ih.key⟩

/-! ## Imports -/

theorem verifyOnlyRow_marked {row : Json} (h : verifyOnlyRow host row now = .ok record)
    (hmode : record.mode = .v3) : Marked record := by
  simp only [verifyOnlyRow, bind_ok, pure_ok] at h
  obtain ⟨stripped, -, restored, -, rfl⟩ := h
  refine ⟨hmode, ?_, rfl⟩
  unfold markRestoredVerifyOnly
  rw [show restored.mode = .v3 from hmode]
  exact Bool.or_true _

theorem planned_marked {digest : RfqLifecycleRecord → Text} {checked : CheckedBackup}
    {rows : List Json} {tombstones : List RfqPortableTombstone} {plan : ImportPlan}
    (hchecked : ∀ entry ∈ checked.incoming, entry.record.mode = .v3 → Marked entry.record)
    (h : planImport host digest checked rows tombstones = .ok plan)
    (hrecord : record ∈ plan.records) (hmode : record.mode = .v3) : Marked record := by
  simp only [planImport, bind_ok, throwIf_ok, exists_unit, pure_ok] at h
  obtain ⟨-, existing, -, -, -, _, -, records, hrecords, rfl⟩ := h
  have hsome : some record ∈ records := by
    rwa [List.reduceOption_mem_iff] at hrecord
  obtain ⟨entry, hentry, hplanned⟩ := mem_of_mapM hrecords _ hsome
  unfold planRecord at hplanned
  split at hplanned
  · rw [Except.ok.injEq, Option.some.injEq] at hplanned
    rw [← hplanned] at hmode ⊢
    have hmarked := hchecked entry hentry hmode
    exact ⟨hmarked.mode, hmarked.backup, hmarked.key⟩
  · split at hplanned
    · cases hplanned
    · split at hplanned
      · simp only [bind_ok, throwIf_ok, exists_unit, pure_ok] at hplanned
        obtain ⟨_, -, _, -, -, hnone⟩ := hplanned
        cases hnone
      · rw [Except.ok.injEq, Option.some.injEq] at hplanned
        rw [← hplanned] at hmode ⊢
        have hmarked := hchecked entry hentry hmode
        exact ⟨hmarked.mode, hmarked.backup, hmarked.key⟩

theorem checked_marked {bounded : Json → Bool} {verified : Except String BackupSnapshot}
    {stored : Option (Option HighWater)} {checked : CheckedBackup}
    (h : checkBackup host bounded verified stored now = .ok checked) :
    ∀ entry ∈ checked.incoming, entry.record.mode = .v3 → Marked entry.record := by
  simp only [checkBackup, bind_ok, throwIf_ok, exists_unit, pure_ok] at h
  obtain ⟨snapshot, -, parsed, -, _, -, _, -, -, -, incoming, hincoming, _, -, -, rfl⟩ := h
  intro entry hentry hmode
  obtain ⟨row, -, hrow⟩ := mem_of_mapM hincoming _ hentry
  simp only [incomingRow, bind_ok, throwIf_ok, exists_unit, pure_ok] at hrow
  obtain ⟨identity, -, record, hrecord, -, rfl⟩ := hrow
  exact verifyOnlyRow_marked hrecord hmode

theorem import_ok {bounded : Json → Bool} {digest : RfqLifecycleRecord → Text}
    {verified : Except String BackupSnapshot} {store after : HistoryStore} {plan : ImportPlan}
    (h : importRfqHistory host bounded digest verified now store = (.ok plan, after)) :
    ∃ checked, checkBackup host bounded verified store.highWater now = .ok checked ∧
      planImport host digest checked store.list
        (store.listTombstones checked.parsed.chainId checked.parsed.account) = .ok plan := by
  unfold importRfqHistory at h
  split at h
  · cases h
  · rename_i checked hchecked
    refine ⟨checked, hchecked, ?_⟩
    split at h
    · cases h
    · rename_i other hplan
      dsimp only at h
      split at h
      · cases h
      · split at h
        · cases h
        · cases h
          exact hplan

theorem imported_verifyOnly {bounded : Json → Bool} {digest : RfqLifecycleRecord → Text}
    {verified : Except String BackupSnapshot} {now : Int} {store after : HistoryStore}
    {plan : ImportPlan} {imported : RfqLifecycleRecord}
    (h : importRfqHistory host bounded digest verified now store = (.ok plan, after))
    (himported : imported ∈ plan.records) (hmode : imported.mode = .v3)
    (hlater : Later host imported record) : VerifyOnly host record := by
  obtain ⟨checked, hchecked, hplan⟩ := import_ok h
  exact ((planned_marked (checked_marked hchecked) hplan himported hmode).later hlater).verifyOnly

/-! ## A v2 record of a backup -/

def plainSnapshot (rows : List Json) : BackupSnapshot where
  payload := .object [("schema", .string historyBackupSchema.toList),
    ("chainId", .string localnetChainId), ("account", .string "0x9".toList),
    ("records", .array rows), ("tombstones", .array []), ("count", .number rows.length),
    ("tombstoneCount", .number 0)]
  owner := "0x9".toList
  chainId := localnetChainId
  seq := 1
  digest := "d".toList

def emptyStore : HistoryStore := ⟨[], none⟩

/-- The import of a backup with one record into an empty storage. -/
def importOne (record : RfqLifecycleRecord) : Except String ImportPlan × HistoryStore :=
  importRfqHistory plainHost (fun _ => true) (fun _ => []) (.ok (plainSnapshot [record.row])) 20000
    emptyStore

theorem imported_verifyOnly_quarantined : ∃ plan after imported,
    importOne takeRecord = (.ok plan, after) ∧ imported ∈ plan.records ∧ imported.mode = .v3 ∧
      VerifyOnly plainHost (quarantineRecord imported 21 []) := by
  have hplanned : (importOne takeRecord).1.toOption.any (fun plan => plan.records.any fun r =>
      decide (r.mode = .v3 ∧ r.rfqId ≠ malformedLocalRecord)) = true := by decide +kernel
  obtain ⟨plan, hplan, hrecords⟩ := (Option.any_eq_true _ _).mp hplanned
  obtain ⟨imported, himported, hrecord⟩ := List.any_eq_true.mp hrecords
  obtain ⟨hmode, hid⟩ := of_decide_eq_true hrecord
  have haccepted : importOne takeRecord = (.ok plan, (importOne takeRecord).2) :=
    Prod.ext (toOption_eq_some_iff.mp hplan) rfl
  exact ⟨plan, _, imported, haccepted, himported, hmode, imported_verifyOnly haccepted himported hmode
    (.operation (.quarantine 21 []) .start trivial rfl hid)⟩

/-- An imported v2 record can be submitted, and can begin to be funded. -/
theorem imported_outside_claim : ∃ plan after imported,
    importOne (plainRecord .reviewing) = (.ok plan, after) ∧ imported ∈ plan.records ∧
      lifecycleMaySubmit imported 20 = true ∧
      (beginRfqPhaseAttempt plainHost imported .funding "f1".toList 21
        (fundedRecord.attempts.funding.bind (·.target))).toOption.isSome = true := by
  have hplanned : (importOne (plainRecord .reviewing)).1.toOption.any (fun plan =>
      plan.records.any fun r => decide (lifecycleMaySubmit r 20 = true ∧
        (beginRfqPhaseAttempt plainHost r .funding "f1".toList 21
          (fundedRecord.attempts.funding.bind (·.target))).toOption.isSome = true)) = true := by
    decide +kernel
  obtain ⟨plan, hplan, hrecords⟩ := (Option.any_eq_true _ _).mp hplanned
  obtain ⟨imported, himported, hrecord⟩ := List.any_eq_true.mp hrecords
  exact ⟨plan, _, imported, Prod.ext (toOption_eq_some_iff.mp hplan) rfl, himported,
    of_decide_eq_true hrecord⟩

end App20.Rfq
