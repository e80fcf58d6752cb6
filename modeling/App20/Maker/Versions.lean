import App20.Maker.Settlement

/-!
# Versions of a lock

What the transactions on a lock make of the version that they find, as far as the operations must
not take it from each other: its quote, its terminal reconciliation and its settlement attempt.

* `lockStateFromChain_version`: a version made of the chain has no settlement attempt.
* `edit_version`: what each transaction keeps, and what it changes.
-/

namespace App20.Maker

open App20.Lib App20.Lib.Exec App20.Domain App20.Intents

/-! ## Canonical versions -/

structure IsVersion (lockId : Text) (r : StoredLock) : Prop where
  id : r.lockId = lockId
  canonical : canonicalStoredLock r = .ok r

variable {lockId : Text} {r c x : StoredLock} {now : Int}

theorem IsVersion.normal (h : IsVersion lockId r) : r.normal = r :=
  (canonicalStoredLock_ok h.canonical).1.symm

theorem IsVersion.items_normal (h : IsVersion lockId r) : r.items.normal = r.items := by
  rw [← normal_items, h.normal]

theorem canonical_items (h : canonicalStoredLock x = .ok c) : c.items = x.items.normal := by
  rw [(canonicalStoredLock_ok h).1, normal_items]

theorem canonical_state (h : canonicalStoredLock x = .ok c) : c.state = x.state := by
  rw [(canonicalStoredLock_ok h).1]
  rfl

theorem IsVersion.of_canonical (hr : IsVersion lockId r) (h : canonicalStoredLock x = .ok c)
    (hid : x.lockId = r.lockId) : IsVersion lockId c := by
  refine ⟨?_, canonicalStoredLock_again h⟩
  have hlowered : lowered r.lockId = r.lockId := congrArg StoredLock.lockId hr.normal
  rw [(canonicalStoredLock_ok h).1]
  show lowered x.lockId = lockId
  rw [hid, hlowered, hr.id]

theorem IsVersion.next (hr : IsVersion lockId r) (h : canonicalStoredLock x = .ok c)
    (hid : x.lockId = r.lockId) (hitems : x.items = r.items) :
    IsVersion lockId c ∧ c.state = x.state ∧ c.items = r.items :=
  ⟨hr.of_canonical h hid, canonical_state h, by rw [canonical_items h, hitems, hr.items_normal]⟩

variable {chain : OnChainLock} {w : LockWrite}

theorem lockStateFromChain_version (hr : IsVersion lockId r)
    (h : lockStateFromChain r chain now = .ok c) :
    IsVersion lockId c ∧ c.state ≠ .locking ∧ c.items = { r.items with attempt := none } := by
  unfold lockStateFromChain at h
  obtain ⟨bound, -, h⟩ := bind_ok.mp h
  refine ⟨hr.of_canonical h rfl, ?_, ?_⟩
  · rw [canonical_state h]
    dsimp only
    split
    · simp
    · split
      · simp
      · split
        · simp
        · simp
  · rw [canonical_items h]
    show { r.items.normal with attempt := none } = _
    rw [hr.items_normal]

theorem quarantinedLock_version (hr : IsVersion lockId r) (h : quarantinedLock r now = .ok c) :
    IsVersion lockId c ∧ c.state ≠ .locking ∧ c.items = r.items := by
  unfold quarantinedLock at h
  obtain ⟨hc, hstate, hitems⟩ := hr.next h rfl rfl
  refine ⟨hc, ?_, hitems⟩
  rw [hstate]
  simp

/-- A failure keeps the items of the record that it is recorded on. -/
theorem lockWithReconciliationFailure_version {pending : Pending} (hr : IsVersion lockId r)
    (h : lockWithReconciliationFailure x now pending = .ok c) (hid : x.lockId = r.lockId) :
    IsVersion lockId c ∧ c.state ≠ .locking ∧ c.items = x.items.normal := by
  unfold lockWithReconciliationFailure at h
  dsimp only at h
  split at h
  · refine ⟨hr.of_canonical h (by dsimp only; exact hid), ?_, ?_⟩
    · rw [canonical_state h]
      simp
    · rw [canonical_items h]
      simp only [StoredLock.items]
  · refine ⟨hr.of_canonical h (by dsimp only; exact hid), ?_, ?_⟩
    rotate_left
    · rw [canonical_items h]
      simp only [StoredLock.items]
    rw [canonical_state h]
    cases pending <;> simp [Pending.state]

/-! ## Transactions -/

namespace LockTx

/-- A transaction as the operations make it for the lock with an id: what it is to write is a
canonical version, with the items of the version that was read. -/
def Sound (lockId : Text) : LockTx → Prop
  | confirm confirmed =>
    IsVersion lockId confirmed ∧ confirmed.state ≠ .locking ∧ confirmed.items = .fresh
  | sign confirmed signature _ =>
    confirmed.lockTxHash ≠ "0x0".toList ∧
      requireText signature "quote v3 signature" = .ok signature
  | refresh read exact =>
    IsVersion lockId exact ∧ exact.state ≠ .locking ∧
      exact.items = { read.items with attempt := none }
  | _ => True

/-- The items of the new version, from those of the version that is found. -/
def Effect (before after : Items) : LockTx → Prop
  | confirm _ => after = .fresh
  | sign _ signature quoteDigest =>
    after = { before with quoteDigest := some quoteDigest.text, signature := some signature }
  | convert action | submit action =>
    after =
      { before with
        attempt := some (before.attempts + 1, action), attempts := before.attempts + 1 }
  | failure _ clears =>
    after = { before with attempt := if clears.isSome then none else before.attempt }
  | refresh read _ => after = { read.items with attempt := none }
  | terminal target _ chain =>
    after = before ∨ ∃ t, t.authorityRevision = target.authorityRevision ∧
        (∀ prior, before.terminal = some prior → prior.authorityRevision < t.authorityRevision) ∧
        after =
          { before with
            terminal := some t
            attempt := before.attempt.filter fun a => !settlementActionComplete a.2 chain }
  | abandon _ | quarantine | persist _ _ _ | resolve _ => after = before

end LockTx

def LockWrite.written : LockWrite → Option StoredLock
  | .put record | .refuse record => some record
  | .keep | .remove => none

/-! ## What a transaction writes -/

theorem unlessTerminal_ok {current : Option StoredLock}
    {version : StoredLock → Except MakerError StoredLock}
    (h : unlessTerminal current version = .ok w) :
    w = .keep ∨ ∃ r c, current = some r ∧ ¬ r.state.Terminal ∧ version r = .ok c ∧ w = .put c := by
  cases current with
  | none =>
    cases h
    exact Or.inl rfl
  | some r =>
    unfold unlessTerminal at h
    dsimp only at h
    split at h
    · cases h
      exact Or.inl rfl
    · rename_i hopen
      obtain ⟨c, hc, rfl⟩ := map_ok.mp h
      exact Or.inr ⟨r, c, rfl, hopen, hc, rfl⟩

/-- Without a version there is nothing to write. -/
theorem edit_none {tx : LockTx} (h : tx.edit lockId now none = .ok w) : w = .keep := by
  cases tx with
  | abandon why =>
    cases why <;>
    · cases h
      rfl
  | confirm | sign | resolve => cases h
  | convert | failure | quarantine | refresh | submit | persist | terminal =>
    cases h
    rfl

theorem IsVersion.signed (hr : IsVersion lockId r) {signature : Text} (quoteDigest : Digest)
    (hsignature : requireText signature "quote v3 signature" = .ok signature) :
    IsVersion lockId
      { r with signature := some signature, quoteDigest := some quoteDigest.text } := by
  refine ⟨hr.id, ?_⟩
  have hcanonical := hr.canonical
  have hdigest : requireHex32 quoteDigest.text "lock quoteDigest" = .ok quoteDigest.text := by
    obtain ⟨htrim, hlower, -⟩ := normal_of_isHex32 quoteDigest.hex
    exact requireHex32_ok_iff.mpr ⟨by rw [htrim, hlower, quoteDigest.hex], by rw [htrim, hlower]⟩
  have hsignature : requireText signature "lock signature" = .ok signature :=
    requireText_ok_iff.mpr (requireText_ok_iff.mp hsignature)
  simp only [canonicalStoredLock, bind_ok, pure_ok] at hcanonical ⊢
  obtain ⟨_, hschedule, _, hspread, _, -, _, hterminal, _, hlockId, _, hrfqDigest, _,
    hrfqFelt, _, htaker, _, htokenA, _, htokenB, _, hexpiry, _, hticket, _, hlockTx, _, htakenA, _,
    htakenB, _, hproceeds, _, hrelease, _, hfailures, _, hnext, _, hreason, _, hquarantined, _,
    hcount, _, hattempt, _, hresolution, _, hchecks, _, hnonce, _, hquotedAt, _, hprovenance, _,
    -, hresult⟩ := hcanonical
  refine ⟨_, hschedule, _, hspread, _, optionally_ok_iff.mpr (Or.inr ⟨_, _, rfl, hdigest, rfl⟩),
    _, hterminal, _, hlockId, _, hrfqDigest, _, hrfqFelt, _, htaker, _, htokenA, _, htokenB, _,
    hexpiry, _, hticket, _, hlockTx, _, htakenA, _, htakenB, _, hproceeds, _, hrelease, _,
    hfailures, _, hnext, _, hreason, _, hquarantined, _, hcount, _, hattempt, _, hresolution, _,
    hchecks, _, hnonce, _, hquotedAt, _, hprovenance, _,
    optionally_ok_iff.mpr (Or.inr ⟨_, _, rfl, hsignature, rfl⟩), ?_⟩
  rw [hresult]

/-- A submission is the next attempt. -/
theorem submittedVersion_version {action : SettlementAction} {transactionHash : Option Text}
    {quarantinedAt : Option Int} (hr : IsVersion lockId r) (h : canonicalStoredLock
      { submittedVersion r action transactionHash now with quarantinedAt } = .ok c) :
    IsVersion lockId c ∧ c.state ≠ .locking ∧ c.items =
        { r.items with
          attempt := some (r.items.attempts + 1, action), attempts := r.items.attempts + 1 } := by
  refine ⟨hr.of_canonical h rfl, ?_, ?_⟩
  · rw [canonical_state h]
    simp [submittedVersion]
  · rw [canonical_items h, ← hr.items_normal]
    rfl

theorem persistedVersion_version {a : SettlementAttempt} {transactionHash : Text}
    (hr : IsVersion lockId r) (ha : r.settlementAttempt = some a)
    (h : canonicalStoredLock (persistedVersion r a transactionHash) = .ok c) :
    IsVersion lockId c ∧ c.state = r.state ∧ c.items = r.items := by
  have hfields : (persistedVersion r a transactionHash).lockId = r.lockId ∧
      (persistedVersion r a transactionHash).state = r.state ∧
      (persistedVersion r a transactionHash).items = r.items := by
    obtain ⟨action, attempt, attemptedAt, hash⟩ := a
    unfold persistedVersion StoredLock.items
    rw [ha]
    cases action <;> exact ⟨rfl, rfl, rfl⟩
  obtain ⟨hid, hstate, hitems⟩ := hfields
  obtain ⟨hversion, hstate', hitems⟩ := hr.next h hid hitems
  exact ⟨hversion, hstate'.trans hstate, hitems⟩

/-- The chain clears an attempt whose action is complete, and no other. -/
theorem reconciledRecord_version (hr : IsVersion lockId r)
    (h : reconciledRecord r chain now = .ok c) :
    IsVersion lockId c ∧ (c.state = .locking → r.state = .locking ∧ r.items.attempt ≠ none) ∧
      c.items =
        { r.items with
          attempt := r.items.attempt.filter fun a => !settlementActionComplete a.2 chain } := by
  unfold reconciledRecord at h
  cases ha : r.settlementAttempt with
  | none =>
    have hattempt : r.items.attempt = none := by simp [StoredLock.items, ha]
    rw [ha] at h
    obtain ⟨hversion, hstate, hitems⟩ := lockStateFromChain_version hr h
    refine ⟨hversion, fun hlocking => absurd hlocking hstate, ?_⟩
    rw [hitems, hattempt]
    rfl
  | some a =>
    have hattempt : r.items.attempt = some (a.attempt, a.action) := by
      simp [StoredLock.items, ha]
    rw [ha, Option.any_some] at h
    split at h
    · rename_i hincomplete
      cases h
      refine ⟨hr, fun hlocking => ⟨hlocking, by simp [hattempt]⟩, ?_⟩
      have hkept : (r.items.attempt.filter fun a => !settlementActionComplete a.2 chain) =
          r.items.attempt := by
        rw [hattempt, Option.filter_some, if_pos hincomplete]
      rw [hkept]
    · rename_i hcomplete
      obtain ⟨hversion, hstate, hitems⟩ := lockStateFromChain_version hr h
      refine ⟨hversion, fun hlocking => absurd hlocking hstate, ?_⟩
      rw [hitems, hattempt, Option.filter_some, if_neg hcomplete]

/-- A terminal reconciliation clears the attempt if its action is complete. -/
theorem terminalRecord_version {target : V3ReconciliationTarget} {authorityDigest : Text}
    (hr : IsVersion lockId r) (h : terminalRecord r target authorityDigest chain now = .ok c) :
    IsVersion lockId c ∧ (c.state = .locking → r.state = .locking ∧ r.items.attempt ≠ none) ∧
      ∃ t, t.authorityRevision = target.authorityRevision ∧ c.items =
          { r.items with
            terminal := some t
            attempt := r.items.attempt.filter fun a => !settlementActionComplete a.2 chain } := by
  unfold terminalRecord at h
  obtain ⟨reconciled, hreconciled, h⟩ := bind_ok.mp h
  obtain ⟨hversion, hstate, hitems⟩ := reconciledRecord_version hr hreconciled
  let t : V3TerminalReconciliation := ⟨target.idempotencyKey, authorityDigest,
    target.authorityRevision, target.transactionHash, now⟩
  refine ⟨hversion.of_canonical h rfl, ?_, t.normal, rfl, ?_⟩
  · rw [canonical_state h]
    exact hstate
  · rw [canonical_items h]
    show { reconciled.items.normal with terminal := some t.normal } = _
    rw [hversion.items_normal, hitems]

/-- What a transaction on a lock does with a version of it. A lock is only removed when the wallet
has reported that it was not made. -/
theorem edit_version {tx : LockTx} (hsound : tx.Sound lockId) (hr : IsVersion lockId r)
    (hlocking : r.state = .locking → r.lockTxHash = "0x0".toList ∧ r.items = .fresh)
    (h : tx.edit lockId now (some r) = .ok w) :
    w = .keep ∨ (w = .remove ∧ tx = .abandon .reverted) ∨
      ∃ c, w.written = some c ∧ IsVersion lockId c ∧ c.state ≠ .locking ∧
        tx.Effect r.items c.items := by
  cases tx with
  | confirm confirmed =>
    unfold LockTx.edit at h
    dsimp only at h
    split at h
    · cases h
      obtain ⟨hversion, hstate, hitems⟩ := hsound
      exact Or.inr (Or.inr ⟨confirmed, rfl, hversion, hstate, hitems⟩)
    · cases h
  | abandon why =>
    cases why with
    | reverted =>
      cases h
      exact Or.inr (Or.inl ⟨rfl, rfl⟩)
    | contradiction =>
      obtain ⟨c, hc, rfl⟩ := map_ok.mp h
      exact Or.inr (Or.inr ⟨c, rfl, quarantinedLock_version hr hc⟩)
    | pending transactionHash =>
      obtain ⟨c, hc, rfl⟩ := map_ok.mp h
      obtain ⟨hversion, hstate, hitems⟩ := lockWithReconciliationFailure_version hr hc rfl
      exact Or.inr (Or.inr ⟨c, rfl, hversion, hstate, hitems.trans hr.items_normal⟩)
  | sign confirmed signature quoteDigest =>
    unfold LockTx.edit at h
    dsimp only at h
    split at h
    · cases h
    · rename_i hsame
      rw [not_or, not_not] at hsame
      cases h
      refine Or.inr (Or.inr ⟨_, rfl, hr.signed quoteDigest hsound.2, ?_, rfl⟩)
      intro hstate
      exact hsound.1 (hsame.2.symm.trans (hlocking hstate).1)
  | convert action | submit action =>
    unfold LockTx.edit at h
    rcases unlessTerminal_ok h with rfl | ⟨_, c, hcurrent, -, hc, rfl⟩
    · exact Or.inl rfl
    · cases hcurrent
      exact Or.inr (Or.inr ⟨c, rfl, submittedVersion_version hr hc⟩)
  | failure pending clears =>
    unfold LockTx.edit at h
    rcases unlessTerminal_ok h with rfl | ⟨_, c, hcurrent, -, hc, rfl⟩
    · exact Or.inl rfl
    · cases hcurrent
      cases clears with
      | none =>
        obtain ⟨hversion, hstate, hitems⟩ := lockWithReconciliationFailure_version hr hc rfl
        exact Or.inr (Or.inr ⟨c, rfl, hversion, hstate, hitems.trans hr.items_normal⟩)
      | some read =>
        obtain ⟨hversion, hstate, hitems⟩ := lockWithReconciliationFailure_version hr hc rfl
        refine Or.inr (Or.inr ⟨c, rfl, hversion, hstate, ?_⟩)
        show c.items = _
        rw [hitems, ← hr.items_normal]
        rfl
  | quarantine =>
    unfold LockTx.edit at h
    dsimp only at h
    split at h
    · obtain ⟨c, hc, rfl⟩ := map_ok.mp h
      exact Or.inr (Or.inr ⟨c, rfl, quarantinedLock_version hr hc⟩)
    · cases h
      exact Or.inl rfl
  | refresh read exact =>
    unfold LockTx.edit at h
    rcases unlessTerminal_ok h with rfl | ⟨_, c, -, -, hc, rfl⟩
    · exact Or.inl rfl
    · cases hc
      exact Or.inr (Or.inr ⟨exact, rfl, hsound⟩)
  | persist action attempt transactionHash =>
    unfold LockTx.edit at h
    dsimp only at h
    split at h
    · cases h
      exact Or.inl rfl
    · rename_i a ha
      split at h
      · rename_i hsame
        obtain ⟨c, hc, rfl⟩ := map_ok.mp h
        obtain ⟨hversion, hstate, hitems⟩ := persistedVersion_version hr ha hc
        refine Or.inr (Or.inr ⟨c, rfl, hversion, ?_, hitems⟩)
        rw [hstate, hsame.1]
        simp
      · cases h
        exact Or.inl rfl
  | resolve reason =>
    unfold LockTx.edit at h
    dsimp only at h
    split at h
    · obtain ⟨c, hc, rfl⟩ := map_ok.mp h
      obtain ⟨hversion, hstate, hitems⟩ := hr.next hc rfl rfl
      refine Or.inr (Or.inr ⟨c, rfl, hversion, ?_, hitems⟩)
      rw [hstate]
      simp [resolvedVersion]
    · cases h
  | terminal target authorityDigest chain =>
    unfold LockTx.edit at h
    dsimp only at h
    split at h
    · obtain ⟨c, hc, rfl⟩ := map_ok.mp h
      obtain ⟨hversion, hstate, hitems⟩ := quarantinedLock_version hr hc
      exact Or.inr (Or.inr ⟨c, rfl, hversion, hstate, Or.inl hitems⟩)
    · rename_i hmatch
      obtain ⟨c, hc, rfl⟩ := map_ok.mp h
      obtain ⟨hversion, hstate, t, hrevision, hitems⟩ := terminalRecord_version hr hc
      refine Or.inr (Or.inr ⟨c, rfl, hversion, ?_, Or.inr ⟨t, hrevision, ?_, hitems⟩⟩)
      · intro hc
        obtain ⟨hr, hattempt⟩ := hstate hc
        rw [(hlocking hr).2] at hattempt
        exact hattempt rfl
      · intro prior hprior
        by_contra hstale
        refine hmatch (Or.inr (Or.inr (Or.inr (Or.inr (Or.inr (Or.inr (Or.inr (Or.inr ?_))))))))
        rw [show r.terminalReconciliation = some prior from hprior, Option.any_some]
        rw [← hrevision]
        exact decide_eq_true (Int.not_lt.mp hstale)

end App20.Maker
