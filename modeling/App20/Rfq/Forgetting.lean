import App20.Rfq.TakeRuns

/-!
# Forgetting an RFQ

The row of one RFQ under saves, removals and tombstones from anywhere. A value-bearing state is only
left by way of quarantine or a reorganisation, so an RFQ that was in one is forgotten when it is settled
or refunded, or after it was given up out of quarantine.

* `forgets_only`: what is known of a record that a tombstone replaces.
-/

namespace App20.Rfq

open App20.Lib App20.Domain
open App20.Otc (localnetChainId)

/-! ## The row -/

/-- The row that is stored of an RFQ, and every version that was stored before, the newest first. -/
structure Cell where
  row : Option RfqStoredRow
  log : List RfqLifecycleRecord

def Cell.empty : Cell := ⟨none, []⟩

inductive CellAction where
  | save (record : RfqLifecycleRecord)
  | remove (expected : RfqLifecycleRecord)
  | saveTombstone (tombstone : RfqStorageTombstone)

def Cell.act (host : Host) (digest : RfqLifecycleRecord → Text) (storageKey : Text) (cell : Cell) :
    CellAction → Except String Cell
  | .save record => do
    let saved ← saveRecord host cell.row record
    return ⟨some (.record saved), saved :: cell.log⟩
  | .remove expected => do
    let canonical ← canonicalizeStorageRecord host expected
    let tombstone ← replaceRfqWithTombstone digest cell.row storageKey canonical
    return { cell with row := some (.tombstone tombstone) }
  | .saveTombstone tombstone => do
    let saved ← assertRfqStorageTombstoneReplacement digest cell.row tombstone
    return { cell with row := some (.tombstone saved) }

/-- What is refused changes nothing. -/
def Cell.step (host : Host) (digest : RfqLifecycleRecord → Text) (storageKey : Text) (cell : Cell)
    (action : CellAction) : Cell := (cell.act host digest storageKey action).toOption.getD cell

/-! ## What is kept -/

variable {host : Host} {digest : RfqLifecycleRecord → Text} {storageKey : Text} {cell next : Cell}
  {record : RfqLifecycleRecord}

/-- Quarantine, and a reorganisation that an authority has reported. -/
def Lost (record : RfqLifecycleRecord) : Prop :=
  record.state = .quarantined ∨ record.state = .reorged

/-- The invariant: the record that is stored is the newest version, and no version that bears value
was followed by anything but one that does or is lost. -/
structure CellKept (cell : Cell) : Prop where
  newest : ∀ r, cell.row = some (.record r) → cell.log.head? = some r
  missing : cell.row = none → cell.log = []
  chain : cell.log.IsChain fun after before =>
    before.state ∈ valueStates → after.state ∈ valueStates ∨ Lost after

theorem cellKept_empty : CellKept .empty :=
  ⟨fun r h => (by cases h), fun _ => rfl, List.isChain_nil⟩

/-- A save over a record leaves a value-bearing state only for quarantine or a reorganisation. -/
theorem save_keeps_value {prior saved : RfqLifecycleRecord}
    (h : saveRecord host (some (.record prior)) record = .ok saved)
    (hvalue : prior.state ∈ valueStates) : saved.state ∈ valueStates ∨ Lost saved := by
  obtain ⟨canonical, -, -, rfl, hsame | hsucceeds⟩ := save_ok h
  · left
    rw [← hsame]
    exact hvalue
  · exact hsucceeds.value hvalue

theorem CellKept.tombstone (h : CellKept cell) (tombstone : RfqStorageTombstone) :
    CellKept { cell with row := some (.tombstone tombstone) } :=
  ⟨fun r hr => (by cases hr), fun hr => (by cases hr), h.chain⟩

theorem CellKept.act {action : CellAction} (h : CellKept cell)
    (hact : cell.act host digest storageKey action = .ok next) : CellKept next := by
  cases action with
  | save record =>
    simp only [Cell.act, bind_ok, pure_ok] at hact
    obtain ⟨saved, hsaved, rfl⟩ := hact
    refine ⟨fun r hr => ?_, fun hr => (by cases hr), ?_⟩
    · cases hr
      rfl
    · cases hrow : cell.row with
      | none =>
        rw [h.missing hrow]
        exact List.isChain_singleton saved
      | some row =>
        rw [hrow] at hsaved
        cases row with
        | tombstone t =>
          simp only [saveRecord, assertRfqStorageReplacement, bind_ok] at hsaved
          obtain ⟨_, -, _, -, _, -, _, hnot, -⟩ := hsaved
          cases hnot
        | record prior =>
          rw [List.isChain_cons]
          refine ⟨fun before hbefore hvalue => ?_, h.chain⟩
          rw [h.newest prior hrow, Option.mem_def, Option.some.injEq] at hbefore
          rw [← hbefore] at hvalue
          exact save_keeps_value hsaved hvalue
  | remove expected =>
    simp only [Cell.act, bind_ok, pure_ok] at hact
    obtain ⟨_, -, tombstone, -, rfl⟩ := hact
    exact h.tombstone tombstone
  | saveTombstone tombstone =>
    simp only [Cell.act, bind_ok, pure_ok] at hact
    obtain ⟨saved, -, rfl⟩ := hact
    exact h.tombstone saved

theorem CellKept.step (action : CellAction) (h : CellKept cell) :
    CellKept (cell.step host digest storageKey action) := by
  unfold Cell.step
  cases hact : cell.act host digest storageKey action with
  | error e => exact h
  | ok next => exact h.act hact

/-! ## What is forgotten -/

/-- The states, other than settled and refunded, in which a record may be forgotten. -/
def GivenUp (record : RfqLifecycleRecord) : Prop :=
  record.state = .cancelled ∨ record.state = .refused ∨
    (record.mode = .v3 ∧ record.state = .expired)

theorem mayForget_cases (h : lifecycleMayForget record = true) :
    record.state = .settled ∨ record.state = .refunded ∨ GivenUp record := by
  unfold lifecycleMayForget at h
  simp only [Bool.and_eq_true, decide_eq_true_eq, List.mem_cons, List.not_mem_nil, or_false] at h
  unfold GivenUp
  tauto

theorem not_value_of_givenUp (h : GivenUp record) : record.state ∉ valueStates := by
  rcases h with hs | hs | ⟨-, hs⟩ <;> rw [hs] <;> decide

theorem act_forgets {action : CellAction} (hrow : cell.row = some (.record record))
    (hact : cell.act host digest storageKey action = .ok next)
    (hgone : ∃ tombstone, next.row = some (.tombstone tombstone)) :
    (∃ tombstone, action = .saveTombstone tombstone ∧ record.restoredFromBackup = true) ∨
      lifecycleMayForget record = true := by
  obtain ⟨tombstone, hgone⟩ := hgone
  cases action with
  | save saved =>
    simp only [Cell.act, bind_ok, pure_ok] at hact
    obtain ⟨_, -, rfl⟩ := hact
    cases hgone
  | remove expected =>
    simp only [Cell.act, replaceRfqWithTombstone, assertRfqStorageRemoval, hrow, bind_ok,
      throwIf_ok, exists_unit, pure_ok, not_not] at hact
    obtain ⟨canonical, -, _, ⟨⟨hforget, hsame⟩, -⟩, -⟩ := hact
    right
    calc lifecycleMayForget record = lifecycleMayForget (finalizeRfqLifecycleForStorage record) := rfl
      _ = lifecycleMayForget (finalizeRfqLifecycleForStorage canonical) := by rw [hsame]
      _ = true := Bool.not_eq_false _ ▸ hforget
  | saveTombstone replacement =>
    simp only [Cell.act, assertRfqStorageTombstoneReplacement, hrow, bind_ok, throwIf_ok,
      exists_unit, pure_ok] at hact
    obtain ⟨_, ⟨hopen, -⟩, -⟩ := hact
    cases hbackup : record.restoredFromBackup with
    | true => exact .inl ⟨replacement, rfl, rfl⟩
    | false =>
      right
      by_contra hforget
      exact hopen ⟨hbackup, .inl (Bool.eq_false_iff.mpr hforget)⟩

/-- After every sequence of saves, removals and tombstones: a record that a tombstone replaces is
settled or refunded, or it was given up, and then every version that bore value was lost later; or it
is a copy from a backup. -/
theorem forgets_only {actions : List CellAction} {action : CellAction}
    (hrow : (run (Cell.step host digest storageKey) .empty actions).row = some (.record record))
    (hact : (run (Cell.step host digest storageKey) .empty actions).act host digest storageKey action =
      .ok next) (hgone : ∃ tombstone, next.row = some (.tombstone tombstone)) :
    (∃ tombstone, action = .saveTombstone tombstone ∧ record.restoredFromBackup = true) ∨
      record.state = .settled ∨ record.state = .refunded ∨ (GivenUp record ∧ ∀ newer version older,
        (run (Cell.step host digest storageKey) .empty actions).log = newer ++ version :: older →
        version.state ∈ valueStates → ∃ lost ∈ newer, Lost lost) := by
  have hkept : CellKept (run (Cell.step host digest storageKey) .empty actions) :=
    run_invariant (fun _ action h => h.step action) actions cellKept_empty
  rcases act_forgets hrow hact hgone with hbackup | hforget
  · exact .inl hbackup
  · rcases mayForget_cases hforget with hs | hs | hgiven
    · exact .inr (.inl hs)
    · exact .inr (.inr (.inl hs))
    · refine .inr (.inr (.inr ⟨hgiven, fun newer version older hlog hvalue => ?_⟩))
      have hhead := hkept.newest record hrow
      have hchain := hkept.chain
      have hopen := not_value_of_givenUp hgiven
      rw [hlog] at hhead hchain
      cases newer with
      | nil =>
        rw [List.nil_append, List.head?_cons, Option.some.injEq] at hhead
        rw [hhead] at hvalue
        exact absurd hvalue hopen
      | cons newest newer =>
        rw [List.cons_append, List.head?_cons, Option.some.injEq] at hhead
        rw [hhead] at hchain ⊢
        exact exists_exit (P := fun r => r.state ∈ valueStates) hchain hopen hvalue

/-! ## An RFQ that is cancelled out of quarantine -/

def resultsOf (record : RfqLifecycleRecord) : List LifecycleOperation → List RfqLifecycleRecord
  | [] => []
  | op :: rest =>
    let next := (op.run plainHost record).toOption.getD record
    next :: resultsOf (markRfqLifecyclePersisted next) rest

/-- A take enters the wallet; the record is quarantined and cancelled, and each result is saved. -/
def cancelledActions : List CellAction :=
  (takeRecord :: resultsOf takeRecord
    [.beginAttempt .take "A".toList 11 (some plainTakeTarget),
      .updateAttempt .take .walletBoundaryUnknown 12 { walletBoundary := some (some .entered) },
      .transition .submissionUnknown 13 {}, .transition .quarantined 14 {},
      .transition .cancelPending 15 {}, .transition .cancelled 16 {}]).map .save

/-- The digest of a record plays no part. -/
def cancelledCell : Cell := run (Cell.step plainHost (fun _ => []) []) .empty cancelledActions

def removesCancelled : Bool :=
  match cancelledCell.row with
  | some (.record record) =>
    decide (record.state = .cancelled ∧ rfqHasFundingEvidence record = true) &&
      match cancelledCell.act plainHost (fun _ => []) [] (.remove record) with
      | .ok next => match next.row with
        | some (.tombstone _) => true
        | _ => false
      | .error _ => false
  | _ => false

/-- The record that is stored in the end, and its removal. -/
theorem cancelledCell_removed : ∃ record next, cancelledCell.row = some (.record record) ∧
    cancelledCell.act plainHost (fun _ => []) [] (.remove record) = .ok next ∧
    (∃ tombstone, next.row = some (.tombstone tombstone)) ∧ record.state = .cancelled ∧
    rfqHasFundingEvidence record = true := by
  have hrun : removesCancelled = true := by decide +kernel
  unfold removesCancelled at hrun
  split at hrun
  · rename_i record hrow
    rw [Bool.and_eq_true] at hrun
    obtain ⟨hstate, hremoved⟩ := hrun
    split at hremoved
    · rename_i next hnext
      split at hremoved
      · rename_i tombstone hgone
        exact ⟨record, next, hrow, hnext, ⟨tombstone, hgone⟩, of_decide_eq_true hstate⟩
      · cases hremoved
    · cases hremoved
  · cases hrun

theorem forgets_only_cancelled : ∃ record next, cancelledCell.row = some (.record record) ∧
    cancelledCell.act plainHost (fun _ => []) [] (.remove record) = .ok next ∧
    ((∃ tombstone, CellAction.remove record = .saveTombstone tombstone ∧
        record.restoredFromBackup = true) ∨ record.state = .settled ∨ record.state = .refunded ∨
      (GivenUp record ∧ ∀ newer version older, cancelledCell.log = newer ++ version :: older →
        version.state ∈ valueStates → ∃ lost ∈ newer, Lost lost)) := by
  obtain ⟨record, next, hrow, hnext, hgone, -⟩ := cancelledCell_removed
  exact ⟨record, next, hrow, hnext, forgets_only hrow hnext hgone⟩

/-- A record with funding evidence is cancelled, by transitions of the table, and removed. -/
theorem forgets_outside_claim :
    (cancelledCell.log.map fun r => r.state) = [.cancelled, .cancelPending, .quarantined,
      .submissionUnknown, .reviewing, .reviewing, .reviewing] ∧
    (∃ version ∈ cancelledCell.log, rfqHasFundingEvidence version = true) ∧
    ∃ record next, cancelledCell.row = some (.record record) ∧
      cancelledCell.act plainHost (fun _ => []) [] (.remove record) = .ok next ∧
      (∃ tombstone, next.row = some (.tombstone tombstone)) ∧
      rfqHasFundingEvidence record = true ∧ record.state ≠ .settled ∧ record.state ≠ .refunded := by
  refine ⟨by decide +kernel, by decide +kernel, ?_⟩
  obtain ⟨record, next, hrow, hnext, hgone, hstate, hevidence⟩ := cancelledCell_removed
  refine ⟨record, next, hrow, hnext, hgone, hevidence, ?_, ?_⟩
  · rw [hstate]
    decide
  · rw [hstate]
    decide

end App20.Rfq
