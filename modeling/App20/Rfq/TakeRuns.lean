import App20.Lib.Revisions
import App20.Lib.Run
import App20.Rfq.Storage

/-!
# Takes over the stored versions

Tabs run operations on records that they hold and save each result. Over all versions that were stored
of a v3 RFQ, one take attempt at most has reached the wallet, as long as no transition puts another
attempt in the place of one that was reverted after that.

* `takes_safe`: the run lemma, with the attempt of a settled record.
-/

namespace App20.Rfq

open App20.Lib App20.Domain
open App20.Otc (localnetChainId)

variable (host : Host)

/-! ## Tabs -/

/-- The versions that were stored of one RFQ, and the records that tabs hold, each from an earlier
load or save. -/
structure Tabs where
  history : History RfqLifecycleRecord (·.storageRevision)
  held : List RfqLifecycleRecord

/-- An operation on a record that is held. -/
structure TabAction where
  snapshot : Nat
  operation : LifecycleOperation

def Tabs.stored (record : RfqLifecycleRecord) : Tabs where
  history := .single (finalizeRfqLifecycleForStorage record)
  held := [finalizeRfqLifecycleForStorage record]

/-- The result of the operation is saved; it is held from then on, and so is what was stored. -/
def Tabs.save (tabs : Tabs) (snapshot : RfqLifecycleRecord) (operation : LifecycleOperation) :
    Except String Tabs := do
  let next ← operation.run host snapshot
  let saved ← saveRecord host (some (.record tabs.history.newest)) next
  return ⟨tabs.history.write saved, tabs.held ++ [markRfqLifecyclePersisted next, saved]⟩

/-- What throws changes nothing. -/
def Tabs.step (tabs : Tabs) (action : TabAction) : Tabs :=
  match tabs.held[action.snapshot]? with
  | none => tabs
  | some snapshot =>
    match tabs.save host snapshot action.operation with
    | .ok next => next
    | .error _ => tabs

/-! ## What is claimed -/

/-- Among the takes of all versions, those that reached the wallet are one attempt. -/
def OneTake (tabs : Tabs) : Prop :=
  ∀ r ∈ tabs.history.versions, ∀ s ∈ tabs.history.versions, ∀ a ∈ r.attempts.take,
    ∀ b ∈ s.attempts.take, reachedWallet a = true → reachedWallet b = true →
    a.attemptId = b.attemptId

def SettledConfirmed (record : RfqLifecycleRecord) : Prop :=
  record.state = .settled → ∃ a ∈ record.attempts.take, a.state = .confirmed

/-- `begin`, `update`, a transition, `confirm` and `revert`. -/
def LifecycleOperation.isPhase : LifecycleOperation → Bool
  | .transition .. | .beginAttempt .. | .updateAttempt .. | .confirmTake .. | .revertTake .. => true
  | .reconcile .. | .quarantine .. | .observeExpiry .. | .restore .. | .authority .. => false

/-- The attempts that a transition is given leave a take that was reverted after it had reached the
wallet in its place. -/
def KeepsTake (record : RfqLifecycleRecord) : LifecycleOperation → Prop
  | .transition _ _ patch => ∀ a ∈ record.attempts.take, a.state = .reverted →
      reachedWallet a = true → ∀ attempts ∈ patch.attempts, ∃ b ∈ attempts.take,
        b.attemptId = a.attemptId
  | _ => True

/-- A phase operation that keeps the take of the record it is run on. -/
def CarefulPhase (tabs : Tabs) (action : TabAction) : Prop :=
  action.operation.isPhase = true ∧
    ∀ snapshot ∈ tabs.held[action.snapshot]?, KeepsTake snapshot action.operation

/-! ## Operations -/

variable {host}
variable {record next : RfqLifecycleRecord} {op : LifecycleOperation}

/-- The result of a phase operation is based on the revision that the record is based on. -/
theorem phase_predecessor (hphase : op.isPhase = true) (h : op.run host record = .ok next) :
    next.storagePredecessorRevision = some (predecessorRevision record) := by
  have htransition {r s : RfqLifecycleRecord} {state now patch}
      (h : transitionRfqLifecycle host r state now patch = .ok s) :
      s.storagePredecessorRevision = some (predecessorRevision r) := by
    rw [(transition_ok h).1]
    rfl
  have hupdate {r s : RfqLifecycleRecord} {phase state now patch}
      (h : updateRfqPhaseAttempt r phase state now patch = .ok s) :
      s.storagePredecessorRevision = some (predecessorRevision r) ∧
        predecessorRevision s = predecessorRevision r := by
    obtain ⟨current, -, -, rfl⟩ := update_ok h
    exact ⟨rfl, rfl⟩
  cases op with
  | transition state now patch => exact htransition h
  | beginAttempt phase attemptId now target =>
    rw [begin_eq h]
    exact (begun_same record phase attemptId now target).2
  | updateAttempt phase state now patch => exact (hupdate h).1
  | confirmTake take now =>
    obtain ⟨-, -, ⟨reason, rfl⟩ | ⟨updated, patch, hupdated, hsettled⟩⟩ := confirm_ok h
    · rfl
    · rw [htransition hsettled, (hupdate hupdated).2]
  | revertTake now observation =>
    obtain ⟨updated, patch, reason, hupdated, hexpired⟩ := revert_ok h
    rw [htransition hexpired, (hupdate hupdated).2]
  | reconcile | quarantine | observeExpiry | restore | authority => cases hphase

theorem transition_take {state : RfqLifecycleState} {now : Int} {patch : LifecyclePatch}
    (h : transitionRfqLifecycle host record state now patch = .ok next) :
    next.attempts.take = (patch.attempts.getD record.attempts).take := by
  rw [(transition_ok h).1]
  rfl

theorem update_take {phase : Phase} {state : AttemptState} {now : Int} {patch : AttemptPatch}
    (h : updateRfqPhaseAttempt record phase state now patch = .ok next) :
    next.attempts.take = record.attempts.take ∨
      ∃ a ∈ record.attempts.take, a.state ≠ .confirmed ∧ ∃ b ∈ next.attempts.take,
        b.attemptId = a.attemptId ∧ b.state = state := by
  obtain ⟨current, hcurrent, hopen, rfl⟩ := update_ok h
  by_cases hphase : phase = .take
  · rw [hphase] at hcurrent
    refine .inr ⟨current, hcurrent, hopen, { patch.apply current with state, updatedAt := now }, ?_,
      rfl, rfl⟩
    rw [hphase]
    rfl
  · exact .inl (Attempts.take_set_of_ne record.attempts _ hphase)

variable {a : PhaseAttempt} {tabs : Tabs}

theorem phase_take (hmode : record.mode = .v3) (hphase : op.isPhase = true)
    (h : op.run host record = .ok next) (ha : a ∈ record.attempts.take)
    (hreached : reachedWallet a = true) (hreverted : a.state = .reverted)
    (hkeeps : KeepsTake record op) : ∃ b ∈ next.attempts.take, b.attemptId = a.attemptId := by
  have hupdate {r s : RfqLifecycleRecord} {phase state now patch} (hr : a ∈ r.attempts.take)
      (h : updateRfqPhaseAttempt r phase state now patch = .ok s) :
      ∃ b ∈ s.attempts.take, b.attemptId = a.attemptId := by
    rcases update_take h with hsame | ⟨c, hc, -, b, hb, hid, -⟩
    · exact ⟨a, hsame ▸ hr, rfl⟩
    · rw [Option.mem_def.mp hr] at hc
      cases hc
      exact ⟨b, hb, hid⟩
  have hplain {r s : RfqLifecycleRecord} {state now patch} (hnone : patch.attempts = none)
      (hr : ∃ b ∈ r.attempts.take, b.attemptId = a.attemptId)
      (h : transitionRfqLifecycle host r state now patch = .ok s) :
      ∃ b ∈ s.attempts.take, b.attemptId = a.attemptId := by
    rw [transition_take h, hnone]
    exact hr
  cases op with
  | transition state now patch =>
    cases hpatch : patch.attempts with
    | none => exact hplain hpatch ⟨a, ha, rfl⟩ h
    | some attempts =>
      rw [transition_take h, hpatch]
      exact hkeeps a ha hreverted hreached attempts hpatch
  | beginAttempt phase attemptId now target =>
    obtain ⟨htake, -, -, -, hexisting, -⟩ := begin_ok h
    rw [htake.mp hmode] at hexisting
    have hproven := (hexisting a ha).2 rfl
    -- What was proven not submitted did not reach the wallet.
    unfold takeAttemptWasProvenNotSubmitted reachedWallet at *
    simp only [Option.any_some, Bool.and_eq_true, decide_eq_true_eq, Bool.not_eq_true'] at hproven
    rw [hproven.2, hproven.1.2] at hreached
    cases hreached
  | updateAttempt phase state now patch => exact hupdate ha h
  | confirmTake take now =>
    obtain ⟨-, -, ⟨reason, rfl⟩ | ⟨updated, patch, hupdated, hsettled⟩⟩ := confirm_ok h
    · exact ⟨a, ha, rfl⟩
    · exact hplain rfl (hupdate ha hupdated) hsettled
  | revertTake now observation =>
    obtain ⟨updated, patch, reason, hupdated, hexpired⟩ := revert_ok h
    exact hplain rfl (hupdate ha hupdated) hexpired
  | reconcile | quarantine | observeExpiry | restore | authority => cases hphase

/-- A result that is settled has a confirmed take, unless its attempts leave a confirmed one out. -/
theorem phase_settled (hmode : record.mode = .v3) (hphase : op.isPhase = true)
    (hrecord : SettledConfirmed record) (h : op.run host record = .ok next)
    (hstate : next.state = .settled) : (∃ a ∈ next.attempts.take, a.state = .confirmed) ∨
      (next.attempts.take = none ∧ ∃ a ∈ record.attempts.take, a.state = .confirmed) := by
  have htransition {r s : RfqLifecycleRecord} {state now patch} (hr : r.mode = .v3)
      (h : transitionRfqLifecycle host r state now patch = .ok s) (hs : s.state = .settled) :
      (∃ a ∈ s.attempts.take, a.state = .confirmed) ∨
        (s.attempts.take = none ∧ ∃ a ∈ r.attempts.take, a.state = .confirmed) := by
    obtain ⟨rfl, -, hv3, -⟩ := transition_ok h
    obtain ⟨a, ha, hconfirmed, -⟩ := (hv3 hr).2 hs
    have htake := transition_take h
    unfold patchedAttempt at ha
    cases hpatch : patch.attempts with
    | none =>
      rw [hpatch] at ha htake
      exact .inl ⟨a, htake.trans ha, hconfirmed⟩
    | some attempts =>
      rw [hpatch] at ha htake
      cases hgiven : attempts.take with
      | none =>
        refine .inr ⟨htake.trans hgiven, a, ?_, hconfirmed⟩
        rw [Option.bind_some, show attempts.get .take = none from hgiven, Option.none_or] at ha
        exact ha
      | some b =>
        rw [Option.bind_some, show attempts.get .take = some b from hgiven, Option.some_or] at ha
        cases ha
        exact .inl ⟨a, htake.trans hgiven, hconfirmed⟩
  cases op with
  | transition state now patch => exact htransition hmode h hstate
  | beginAttempt phase attemptId now target =>
    obtain ⟨-, -, -, hbegins, -⟩ := begin_ok h
    rw [begin_eq h, (begun_same record phase attemptId now target).1] at hstate
    rw [hstate] at hbegins
    have hover : RfqLifecycleState.settled ∉ attemptStates phase := by cases phase <;> decide
    exact absurd hbegins hover
  | updateAttempt phase state now patch =>
    have hbefore : record.state = .settled := by
      obtain ⟨current, -, -, rfl⟩ := update_ok h
      exact hstate
    obtain ⟨a, ha, hconfirmed⟩ := hrecord hbefore
    rcases update_take h with hsame | ⟨b, hb, hopen, -⟩
    · exact .inl ⟨a, hsame ▸ ha, hconfirmed⟩
    · rw [Option.mem_def.mp ha] at hb
      cases hb
      exact absurd hconfirmed hopen
  | confirmTake take now =>
    obtain ⟨-, -, ⟨reason, rfl⟩ | ⟨updated, patch, hupdated, hsettled⟩⟩ := confirm_ok h
    · cases hstate
    · have hupdatedMode : updated.mode = .v3 := by
        obtain ⟨current, -, -, rfl⟩ := update_ok hupdated
        exact hmode
      obtain ⟨rfl, -, hv3, -⟩ := transition_ok hsettled
      obtain ⟨a, ha, hconfirmed, -⟩ := (hv3 hupdatedMode).2 rfl
      exact .inl ⟨a, ha, hconfirmed⟩
  | revertTake now observation =>
    obtain ⟨updated, patch, reason, -, hexpired⟩ := revert_ok h
    rw [(transition_ok hexpired).1] at hstate
    cases hstate
  | reconcile | quarantine | observeExpiry | restore | authority => cases hphase

/-! ## Runs -/

/-- A record that is held says what one of the versions says, and is based on it. -/
structure Tracks (held version : RfqLifecycleRecord) : Prop where
  revision : predecessorRevision held = version.storageRevision
  mode : held.mode = version.mode
  state : held.state = version.state
  take : held.attempts.take.map PhaseAttempt.evidence =
    version.attempts.take.map PhaseAttempt.evidence

theorem evidence_mem {x y : Option PhaseAttempt}
    (h : x.map PhaseAttempt.evidence = y.map PhaseAttempt.evidence) (ha : a ∈ x) :
    ∃ b ∈ y, b.evidence = a.evidence := by
  rw [Option.mem_def.mp ha, Option.map_some] at h
  obtain ⟨b, hb, hevidence⟩ := Option.map_eq_some_iff.mp h.symm
  exact ⟨b, hb, hevidence⟩

theorem evidence_eq {b : PhaseAttempt} (h : b.evidence = a.evidence) :
    b.attemptId = a.attemptId ∧ b.state = a.state ∧ reachedWallet b = reachedWallet a := by
  simp only [PhaseAttempt.evidence, Prod.mk.injEq] at h
  obtain ⟨hid, hstate, hhash, hboundary⟩ := h
  refine ⟨hid, hstate, ?_⟩
  unfold reachedWallet
  rw [hhash, hboundary]

theorem SettledConfirmed.congr {r s : RfqLifecycleRecord} (hstate : s.state = r.state)
    (htake : s.attempts.take.map PhaseAttempt.evidence = r.attempts.take.map PhaseAttempt.evidence)
    (h : SettledConfirmed r) : SettledConfirmed s := by
  intro hs
  obtain ⟨a, ha, hconfirmed⟩ := h (hstate ▸ hs)
  obtain ⟨b, hb, hevidence⟩ := evidence_mem htake.symm ha
  exact ⟨b, hb, (evidence_eq hevidence).2.1.trans hconfirmed⟩

/-- The invariant: every take that reached the wallet is the one of the newest version. -/
structure TakesSafe (tabs : Tabs) : Prop where
  mode : tabs.history.newest.mode = .v3
  held : ∀ h ∈ tabs.held, ∃ v ∈ tabs.history.versions, Tracks h v
  reached : ∀ r ∈ tabs.history.versions, ∀ a ∈ r.attempts.take, reachedWallet a = true →
    ∃ b ∈ tabs.history.newest.attempts.take, reachedWallet b = true ∧ b.attemptId = a.attemptId
  settled : ∀ r ∈ tabs.history.versions, SettledConfirmed r

theorem TakesSafe.oneTake (h : TakesSafe tabs) : OneTake tabs := by
  intro r hr s hs a ha b hb hreachedA hreachedB
  obtain ⟨c, hc, -, hca⟩ := h.reached r hr a ha hreachedA
  obtain ⟨d, hd, -, hdb⟩ := h.reached s hs b hb hreachedB
  rw [Option.mem_def.mp hc] at hd
  cases hd
  exact hca.symm.trans hdb

theorem reached_kept {prior canonical : RfqLifecycleRecord} (hsucceeds : Succeeds prior canonical)
    (ha : a ∈ prior.attempts.take) (hreached : reachedWallet a = true)
    (hreverted : a.state = .reverted → ∃ b ∈ canonical.attempts.take, b.attemptId = a.attemptId) :
    ∃ b ∈ canonical.attempts.take, reachedWallet b = true ∧ b.attemptId = a.attemptId := by
  have hkept := hsucceeds.attempts .take a ha
  obtain ⟨b, hb, hid⟩ : ∃ b ∈ canonical.attempts.take, b.attemptId = a.attemptId := by
    by_cases hstate : a.state = .reverted
    · exact hreverted hstate
    · exact hkept.kept hstate
  refine ⟨b, hb, ?_, hid⟩
  unfold reachedWallet at hreached ⊢
  simp only [Bool.or_eq_true, decide_eq_true_eq] at hreached ⊢
  rcases hreached with hgiven | hentered
  · left
    rw [hkept.hash b hb hid fun hnone => (by rw [hnone] at hgiven; cases hgiven)]
    exact hgiven
  · exact .inr (hkept.entered b hb hid hentered)

theorem tracks_saved {next canonical : RfqLifecycleRecord} (h : SameLife next canonical) :
    Tracks (markRfqLifecyclePersisted next) (finalizeRfqLifecycleForStorage canonical) :=
  ⟨h.storageRevision.symm, h.mode.symm, h.state.symm, (h.attempts .take).symm⟩

theorem tracks_self (record : RfqLifecycleRecord) : Tracks (finalizeRfqLifecycleForStorage record)
    (finalizeRfqLifecycleForStorage record) := ⟨rfl, rfl, rfl, rfl⟩

theorem takesSafe_stored (hmode : record.mode = .v3) (hsettled : SettledConfirmed record) :
    TakesSafe (Tabs.stored record) := by
  have hversions : (Tabs.stored record).history.versions =
      [finalizeRfqLifecycleForStorage record] := rfl
  refine ⟨hmode, fun h hh => ?_, fun r hr a ha hreached => ?_, fun r hr => ?_⟩
  · rw [List.mem_singleton.mp hh, hversions]
    exact ⟨_, List.mem_singleton_self _, tracks_self record⟩
  · rw [hversions, List.mem_singleton] at hr
    rw [hr] at ha
    exact ⟨a, ha, hreached, rfl⟩
  · rw [hversions, List.mem_singleton] at hr
    rw [hr]
    exact hsettled

theorem Tracks.of_finalized {held version : RfqLifecycleRecord}
    (h : Tracks held (finalizeRfqLifecycleForStorage version)) : Tracks held version :=
  ⟨h.revision, h.mode, h.state, h.take⟩

/-- Where the newest version is saved again, only what is held changes. -/
theorem TakesSafe.again (h : TakesSafe tabs) {kept : List RfqLifecycleRecord}
    (hkept : ∀ r ∈ kept, Tracks r tabs.history.newest) :
    TakesSafe { tabs with held := tabs.held ++ kept } := by
  refine ⟨h.mode, fun r hr => ?_, h.reached, h.settled⟩
  rcases List.mem_append.mp hr with hr | hr
  · exact h.held r hr
  · exact ⟨tabs.history.newest, tabs.history.newest_mem, hkept r hr⟩

/-- A new version says of the take what the newest one said. -/
theorem TakesSafe.write (h : TakesSafe tabs) {kept : List RfqLifecycleRecord}
    {saved : RfqLifecycleRecord}
    (hrevision : tabs.history.newest.storageRevision < saved.storageRevision)
    (hmode : saved.mode = .v3) (hkept : ∀ r ∈ kept, Tracks r saved)
    (hreached : ∀ a ∈ tabs.history.newest.attempts.take, reachedWallet a = true →
      ∃ b ∈ saved.attempts.take, reachedWallet b = true ∧ b.attemptId = a.attemptId)
    (hsettled : SettledConfirmed saved) :
    TakesSafe ⟨tabs.history.write saved, tabs.held ++ kept⟩ := by
  have hnewest : (tabs.history.write saved).newest = saved := History.newest_write hrevision
  refine ⟨by rw [hnewest]; exact hmode, fun r hr => ?_, fun r hr a ha ha' => ?_, fun r hr => ?_⟩
  · rcases List.mem_append.mp hr with hr | hr
    · obtain ⟨v, hv, htracks⟩ := h.held r hr
      exact ⟨v, (History.mem_write hrevision).mpr (.inr hv), htracks⟩
    · exact ⟨saved, (History.mem_write hrevision).mpr (.inl rfl), hkept r hr⟩
  · dsimp only
    rw [hnewest]
    rcases (History.mem_write hrevision).mp hr with rfl | hr
    · exact ⟨a, ha, ha', rfl⟩
    · obtain ⟨b, hb, hb', hid⟩ := h.reached r hr a ha ha'
      obtain ⟨c, hc, hc', hcid⟩ := hreached b hb hb'
      exact ⟨c, hc, hc', hcid.trans hid⟩
  · rcases (History.mem_write hrevision).mp hr with rfl | hr
    · exact hsettled
    · exact h.settled r hr

theorem TakesSafe.save {next : Tabs} {snapshot : RfqLifecycleRecord} (h : TakesSafe tabs)
    (hheld : snapshot ∈ tabs.held) (hphase : op.isPhase = true) (hkeeps : KeepsTake snapshot op)
    (hsave : tabs.save host snapshot op = .ok next) : TakesSafe next := by
  simp only [Tabs.save, bind_ok, pure_ok] at hsave
  obtain ⟨result, hrun, saved, hsaved, rfl⟩ := hsave
  obtain ⟨canonical, hlife, -, rfl, hsame | hsucceeds⟩ := save_ok hsaved
  · have hrevision : (finalizeRfqLifecycleForStorage canonical).storageRevision =
        tabs.history.newest.storageRevision := by rw [← hsame]; rfl
    rw [History.write_of_not_lt (by rw [hrevision]; exact lt_irrefl _)]
    refine h.again fun r hr => ?_
    simp only [List.mem_cons, List.not_mem_nil, or_false] at hr
    apply Tracks.of_finalized
    rw [hsame]
    rcases hr with rfl | rfl
    · exact tracks_saved hlife
    · exact tracks_self canonical
  · -- A save that is accepted was based on the newest version.
    obtain ⟨version, hversion, htracks⟩ := h.held snapshot hheld
    have hbase : version = tabs.history.newest := by
      refine History.eq_newest hversion ?_
      have hpredecessor := hsucceeds.predecessor
      rw [hlife.predecessor, phase_predecessor hphase hrun, Option.some.injEq] at hpredecessor
      exact htracks.revision.symm.trans hpredecessor
    subst hbase
    have hmode : snapshot.mode = .v3 := htracks.mode.trans h.mode
    have hsettledBefore : SettledConfirmed snapshot :=
      (h.settled _ hversion).congr htracks.state htracks.take
    refine h.write ?_ (hsucceeds.mode.trans h.mode) (fun r hr => ?_) (fun a ha ha' => ?_)
      fun hstate => ?_
    · change _ < canonical.storageRevision
      rw [hsucceeds.revision]
      omega
    · simp only [List.mem_cons, List.not_mem_nil, or_false] at hr
      rcases hr with rfl | rfl
      · exact tracks_saved hlife
      · exact tracks_self canonical
    · change ∃ b ∈ canonical.attempts.take, _
      refine reached_kept hsucceeds ha ha' fun hreverted => ?_
      obtain ⟨b, hb, hevidence⟩ := evidence_mem htracks.take.symm ha
      obtain ⟨hid, hstate, hwallet⟩ := evidence_eq hevidence
      obtain ⟨c, hc, hcid⟩ := phase_take hmode hphase hrun hb (hwallet.trans ha')
        (hstate.trans hreverted) hkeeps
      obtain ⟨d, hd, hdc⟩ := evidence_mem (hlife.attempts .take).symm hc
      exact ⟨d, hd, (evidence_eq hdc).1.trans (hcid.trans hid)⟩
    · have hresult : result.state = .settled := hlife.state.symm.trans hstate
      rcases phase_settled hmode hphase hsettledBefore hrun hresult with hconfirmed | ⟨hnone, hgone⟩
      · obtain ⟨a, ha, hconfirmed⟩ := hconfirmed
        obtain ⟨b, hb, hevidence⟩ := evidence_mem (hlife.attempts .take).symm ha
        exact ⟨b, hb, (evidence_eq hevidence).2.1.trans hconfirmed⟩
      · -- A confirmed attempt cannot be left out.
        obtain ⟨a, ha, hconfirmed⟩ := hgone
        obtain ⟨b, hb, hevidence⟩ := evidence_mem htracks.take ha
        have hopen : b.state ≠ .reverted := by
          rw [(evidence_eq hevidence).2.1, hconfirmed]
          decide
        obtain ⟨c, hc, -⟩ := (hsucceeds.attempts .take b hb).kept hopen
        have hmissing := hlife.attempts .take
        rw [show result.attempts.get .take = none from hnone, Option.mem_def.mp hc] at hmissing
        cases hmissing

theorem takesSafe_step {action : TabAction} (hcareful : CarefulPhase tabs action)
    (h : TakesSafe tabs) : TakesSafe (tabs.step host action) := by
  unfold Tabs.step
  cases hsnapshot : tabs.held[action.snapshot]? with
  | none => exact h
  | some snapshot =>
    dsimp only
    cases hsave : tabs.save host snapshot action.operation with
    | error e => exact h
    | ok next =>
      exact h.save (List.mem_of_getElem? hsnapshot) hcareful.1 (hcareful.2 snapshot hsnapshot) hsave

/-- In every run of phase operations that keep the takes, from any v3 record. -/
theorem takes_safe (hmode : record.mode = .v3) (hsettled : SettledConfirmed record)
    {actions : List TabAction}
    (hcareful : Along (Tabs.step host) CarefulPhase (Tabs.stored record) actions) :
    OneTake (run (Tabs.step host) (Tabs.stored record) actions) ∧
      ∀ r ∈ (run (Tabs.step host) (Tabs.stored record) actions).history.versions,
        SettledConfirmed r := by
  have hsafe := run_invariant_along (fun _ _ hc hs => takesSafe_step hc hs) hcareful
    (takesSafe_stored hmode hsettled)
  exact ⟨hsafe.oneTake, hsafe.settled⟩

/-! ## A second take -/

def takeRequestDigest : Text := "0x".toList ++ List.replicate 64 'a'

/-- A v3 record in review, with its fills selected. -/
def takeRecord : RfqLifecycleRecord :=
  { plainRecord .reviewing with
    mode := .v3
    selectedQuote := none
    settlement := some { plainSettlement with version := .localnetV3, ticketAddress := none }
    requestDigest := some takeRequestDigest
    bucket := some ⟨"1".toList, "9".toList⟩
    takerCommitment := some "0x5".toList
    takerSigningKey := some "0x5".toList
    fills := some [⟨"maker".toList, "0x21".toList, "5".toList, "7".toList, 50⟩] }

def plainTakeTarget : AttemptTarget where
  chainId := localnetChainId
  account := "0x9".toList
  rfqId := "0x1".toList
  requestDigest := takeRequestDigest
  operation := .take "0x1".toList
    ⟨"0xa".toList, "5".toList, "0xb".toList, "7".toList, [⟨"0x21".toList, "5".toList, "7".toList⟩]⟩

def submittedTake (attemptId : Text) : PhaseAttempt where
  attemptId
  state := .submittedUnknown
  createdAt := 14
  updatedAt := 14
  transactionHash := some "0x99".toList
  observation := none
  walletBoundary := some .entered
  target := some plainTakeTarget

/-- The first take enters the wallet and is reverted. -/
def revertedTake : List TabAction :=
  [⟨0, .beginAttempt .take "A".toList 11 (some plainTakeTarget)⟩,
    ⟨1, .updateAttempt .take .walletBoundaryUnknown 12 { walletBoundary := some (some .entered) }⟩,
    ⟨3, .updateAttempt .take .reverted 13 {}⟩]

/-- A transition puts another attempt in its place. -/
def secondTake : TabAction where
  snapshot := 5
  operation := .transition .submissionUnknown 14
    { attempts := some (Attempts.empty.set .take (submittedTake "B".toList)) }

/-- The RFQ is given up instead. -/
def givesUp : TabAction where
  snapshot := 5
  operation := .transition .cancelPending 14 {}

theorem takes_safe_given_up :
    OneTake (run (Tabs.step plainHost) (Tabs.stored takeRecord) (revertedTake ++ [givesUp])) ∧
      ∀ r ∈ (run (Tabs.step plainHost) (Tabs.stored takeRecord)
        (revertedTake ++ [givesUp])).history.versions, SettledConfirmed r := by
  refine takes_safe rfl (fun h => by cases h) ?_
  refine ⟨⟨rfl, fun _ _ => trivial⟩, ⟨rfl, fun _ _ => trivial⟩, ⟨rfl, fun _ _ => trivial⟩,
    ⟨rfl, fun _ _ => ?_⟩, trivial⟩
  intro a _ _ _ attempts hattempts
  cases hattempts

/-- Two takes of one RFQ have reached the wallet. -/
theorem takes_outside_claim : takeRecord.mode = .v3 ∧ takeRecord.attempts = .empty ∧
    (∀ action ∈ revertedTake ++ [secondTake], action.operation.isPhase = true) ∧
    ¬ OneTake (run (Tabs.step plainHost) (Tabs.stored takeRecord)
      (revertedTake ++ [secondTake])) := by
  refine ⟨rfl, rfl, by decide, ?_⟩
  unfold OneTake
  decide +kernel

end App20.Rfq
