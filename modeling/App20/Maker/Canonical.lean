import App20.Maker.Lock

/-!
# Canonical locks

* `canonicalStoredLock_ok`: the canonical form only respells the texts of a record.
* `canonicalStoredLock_again`: a canonical record is its own canonical form.
-/

namespace App20.Maker

open App20.Lib App20.Domain App20.Intents
open App20.Reservation (maxSafeInteger)

/-! ## What the checks say -/

variable {value t : Text} {label message : String} {least n : Int} {α : Type}

theorem requireText_ok_iff :
    requireText value label = .ok t ↔
      trim value ≠ [] ∧ (trim value).length ≤ maxTextLength ∧ t = trim value := by
  simp only [requireText, bind_ok, throwIf_ok, pure_ok, exists_const, not_lt, ne_eq]

theorem requireHex32_ok_iff :
    requireHex32 value label = .ok t ↔
      isHex32 (toLowerCase (trim value)) = true ∧ t = toLowerCase (trim value) := by
  simp only [requireHex32, bind_ok, throwIf_ok, pure_ok, exists_const, Bool.not_eq_false]

theorem requireFeltText_ok_iff :
    requireFeltText value label = .ok t ↔ requireText value label = .ok (trim value) ∧
        (toLowerCase (trim value)).length ≤ maxFeltHexLength ∧
        isFeltHex (toLowerCase (trim value)) = true ∧ t = toLowerCase (trim value) := by
  simp only [requireFeltText, bind_ok, throwIf_ok, pure_ok, exists_const, not_or,
    not_lt, Bool.not_eq_false]
  constructor
  · rintro ⟨u, hu, ⟨hlength, hfelt⟩, rfl⟩
    obtain ⟨-, -, rfl⟩ := requireText_ok_iff.mp hu
    exact ⟨hu, hlength, hfelt, rfl⟩
  · rintro ⟨hu, hlength, hfelt, rfl⟩
    exact ⟨_, hu, ⟨hlength, hfelt⟩, rfl⟩

theorem requireFrom_ok_iff {value : Int} :
    requireFrom least value message = .ok n ↔ least ≤ value ∧ value ≤ maxU128 ∧ n = value := by
  simp only [requireFrom, bind_ok, throwIf_ok, pure_ok, exists_const, not_or, not_lt, and_assoc]

theorem requireSafe_ok_iff {value : Int} :
    requireSafe least value message = .ok n ↔
      least ≤ value ∧ value ≤ maxSafeInteger ∧ n = value := by
  simp only [requireSafe, bind_ok, throwIf_ok, pure_ok, exists_const, not_or, not_lt, and_assoc]

theorem requireSpread_ok_iff {value : Int} :
    requireSpread value = .ok n ↔ 0 ≤ value ∧ value < 10000 ∧ n = value := by
  simp only [requireSpread, bind_ok, throwIf_ok, pure_ok, exists_const, not_or,
    not_lt, not_le, and_assoc]

theorem optionally_ok_iff {β : Type} {check : α → Except MakerError β} {o : Option α} {p : Option β} :
    optionally check o = .ok p ↔
      (o = none ∧ p = none) ∨ ∃ x y, o = some x ∧ check x = .ok y ∧ p = some y := by
  cases o with
  | none => simp [optionally, eq_comm]
  | some x =>
    cases hx : check x with
    | error e => simp [optionally, hx, Except.map]
    | ok y => simp [optionally, hx, Except.map, eq_comm]

/-- A check that respells a value respells an optional value. -/
theorem optionally_map {β : Type} {check : α → Except MakerError β} {f : α → β}
    (hcheck : ∀ x y, check x = .ok y → y = f x) {o : Option α} {p : Option β}
    (h : optionally check o = .ok p) : p = o.map f := by
  rcases optionally_ok_iff.mp h with ⟨rfl, rfl⟩ | ⟨x, y, rfl, hy, rfl⟩
  · rfl
  · rw [hcheck x y hy]
    rfl

/-- What a check returned for an optional value it returns again. -/
theorem optionally_again {check : α → Except MakerError α}
    (hcheck : ∀ x y, check x = .ok y → check y = .ok y) {o p : Option α}
    (h : optionally check o = .ok p) : optionally check p = .ok p := by
  rcases optionally_ok_iff.mp h with ⟨rfl, rfl⟩ | ⟨x, y, rfl, hy, rfl⟩
  · rfl
  · exact optionally_ok_iff.mpr (Or.inr ⟨y, y, rfl, hcheck x y hy, rfl⟩)

/-! ## Respelling -/

def lowered (t : Text) : Text := toLowerCase (trim t)

theorem trim_lowered (t : Text) : trim (lowered t) = lowered t :=
  trim_eq_self (trimmed_trim t).toLowerCase

theorem lowered_lowered (t : Text) : lowered (lowered t) = lowered t := by
  unfold lowered
  rw [trim_eq_self (trimmed_trim t).toLowerCase, toLowerCase_toLowerCase]

theorem requireText_ok (h : requireText value label = .ok t) :
    t = trim value := (requireText_ok_iff.mp h).2.2

theorem requireText_again (h : requireText value label = .ok t) : requireText t label = .ok t := by
  obtain ⟨hne, hlength, rfl⟩ := requireText_ok_iff.mp h
  exact requireText_ok_iff.mpr ⟨by rwa [trim_trim], by rwa [trim_trim], (trim_trim value).symm⟩

theorem requireHex32_ok (h : requireHex32 value label = .ok t) :
    t = lowered value := (requireHex32_ok_iff.mp h).2

theorem requireHex32_again (h : requireHex32 value label = .ok t) :
    requireHex32 t label = .ok t := by
  obtain ⟨hhex, rfl⟩ := requireHex32_ok_iff.mp h
  have hsame := lowered_lowered value
  exact requireHex32_ok_iff.mpr ⟨by rwa [← lowered, ← lowered, hsame], hsame.symm⟩

theorem requireFeltText_ok (h : requireFeltText value label = .ok t) : t = lowered value :=
  (requireFeltText_ok_iff.mp h).2.2.2

theorem requireFeltText_again (h : requireFeltText value label = .ok t) :
    requireFeltText t label = .ok t := by
  obtain ⟨htext, hlength, hfelt, rfl⟩ := requireFeltText_ok_iff.mp h
  obtain ⟨hne, hshort, -⟩ := requireText_ok_iff.mp htext
  have hsame : toLowerCase (trim (toLowerCase (trim value))) = toLowerCase (trim value) :=
    lowered_lowered value
  have htrim : trim (toLowerCase (trim value)) = toLowerCase (trim value) := trim_lowered value
  refine requireFeltText_ok_iff.mpr ⟨requireText_ok_iff.mpr ?_, ?_, ?_, hsame.symm⟩
  · rw [htrim]
    refine ⟨?_, ?_, rfl⟩
    · simpa [toLowerCase] using hne
    · simpa [toLowerCase] using hshort
  · rwa [hsame]
  · rwa [hsame]

theorem requireFrom_again {value : Int} (h : requireFrom least value message = .ok n) :
    requireFrom least n message = .ok n := by
  obtain ⟨hleast, hmax, rfl⟩ := requireFrom_ok_iff.mp h
  exact h

theorem requireSafe_again {value : Int} (h : requireSafe least value message = .ok n) :
    requireSafe least n message = .ok n := by
  obtain ⟨hleast, hmax, rfl⟩ := requireSafe_ok_iff.mp h
  exact h

/-! ## Records -/

def SettlementAttempt.normal (a : SettlementAttempt) : SettlementAttempt :=
  { a with transactionHash := a.transactionHash.map lowered }

def OperatorResolution.normal (r : OperatorResolution) : OperatorResolution :=
  { r with reason := trim r.reason }

def V3TerminalReconciliation.normal (t : V3TerminalReconciliation) : V3TerminalReconciliation :=
  { t with
    idempotencyKey := trim t.idempotencyKey, authorityDigest := lowered t.authorityDigest
    transactionHash := lowered t.transactionHash }

def StoredLock.normal (r : StoredLock) : StoredLock :=
  { r with
    lockId := lowered r.lockId, rfqDigest := lowered r.rfqDigest, rfqFelt := lowered r.rfqFelt
    takerCommitment := lowered r.takerCommitment, tokenA := lowered r.tokenA
    tokenB := lowered r.tokenB, ticket := lowered r.ticket, lockTxHash := lowered r.lockTxHash
    proceedsTxHash := r.proceedsTxHash.map lowered, releaseTxHash := r.releaseTxHash.map lowered
    quoteDigest := r.quoteDigest.map lowered, reason := r.reason.map trim
    settlementAttempt := r.settlementAttempt.map SettlementAttempt.normal
    operatorResolution := r.operatorResolution.map OperatorResolution.normal
    nonce := lowered r.nonce, pricingProvenance := trim r.pricingProvenance
    signature := r.signature.map trim
    terminalReconciliation := r.terminalReconciliation.map V3TerminalReconciliation.normal }

theorem canonicalAttempt_ok {a c : SettlementAttempt} (h : canonicalAttempt a = .ok c) :
    c = a.normal := by
  simp only [canonicalAttempt, requireNonnegativeCounter, requireTimestamp, bind_ok,
    pure_ok, requireSafe_ok_iff] at h
  obtain ⟨_, ⟨-, -, rfl⟩, _, ⟨-, -, rfl⟩, hash, hhash, rfl⟩ := h
  rw [optionally_map (fun _ _ h => requireFeltText_ok h) hhash]
  rfl

theorem canonicalAttempt_again {a c : SettlementAttempt} (h : canonicalAttempt a = .ok c) :
    canonicalAttempt c = .ok c := by
  simp only [canonicalAttempt, bind_ok, pure_ok] at h
  obtain ⟨_, hattempt, _, htime, hash, hhash, rfl⟩ := h
  have hhash := optionally_again (fun _ _ h => requireFeltText_again h) hhash
  simp only [canonicalAttempt, bind_ok, pure_ok]
  exact ⟨_, requireSafe_again hattempt, _, requireSafe_again htime, _, hhash, rfl⟩

theorem canonicalResolution_ok {r c : OperatorResolution} (h : canonicalResolution r = .ok c) :
    c = r.normal := by
  simp only [canonicalResolution, requireTimestamp, bind_ok, pure_ok, requireSafe_ok_iff] at h
  obtain ⟨reason, hreason, _, ⟨-, -, rfl⟩, rfl⟩ := h
  rw [requireText_ok hreason]
  rfl

theorem canonicalResolution_again {r c : OperatorResolution} (h : canonicalResolution r = .ok c) :
    canonicalResolution c = .ok c := by
  simp only [canonicalResolution, bind_ok, pure_ok] at h
  obtain ⟨_, hreason, _, htime, rfl⟩ := h
  simp only [canonicalResolution, bind_ok, pure_ok]
  exact ⟨_, requireText_again hreason, _, requireSafe_again htime, rfl⟩

theorem canonicalTerminal_ok {t c : V3TerminalReconciliation} (h : canonicalTerminal t = .ok c) :
    c = t.normal := by
  simp only [canonicalTerminal, requireTimestamp, bind_ok, pure_ok, requireSafe_ok_iff] at h
  obtain ⟨_, hkey, _, hdigest, _, ⟨-, -, rfl⟩, _, hhash, _, ⟨-, -, rfl⟩, rfl⟩ := h
  rw [requireText_ok hkey, requireHex32_ok hdigest, requireFeltText_ok hhash]
  rfl

theorem canonicalTerminal_again {t c : V3TerminalReconciliation} (h : canonicalTerminal t = .ok c) :
    canonicalTerminal c = .ok c := by
  simp only [canonicalTerminal, bind_ok, pure_ok] at h
  obtain ⟨_, hkey, _, hdigest, _, hrevision, _, hhash, _, htime, rfl⟩ := h
  simp only [canonicalTerminal, bind_ok, pure_ok]
  exact ⟨_, requireText_again hkey, _, requireHex32_again hdigest, _, requireSafe_again hrevision,
    _, requireFeltText_again hhash, _, requireSafe_again htime, rfl⟩

theorem checkSchedule_pos {schedule : List PriceSchedulePoint} {maxB : Int}
    (h : checkSchedule schedule maxB = .ok ()) : 0 < maxB := by
  simp only [checkSchedule, requireAmount, bind_ok, requireFrom_ok_iff] at h
  obtain ⟨_, -, _, ⟨hpos, -⟩, -⟩ := h
  exact hpos

/-- The checks of the canonical form that are not about the spelling of a text. -/
theorem canonicalStoredLock_ok {r c : StoredLock} (h : canonicalStoredLock r = .ok c) :
    c = r.normal ∧ checkSchedule r.schedule r.maxB = .ok () ∧
      checkOperational c.state c.priorState c.settlementAttemptCount c.settlementAttempt =
        .ok () := by
  simp only [canonicalStoredLock, requireTimestamp, requireNonnegativeAmount,
    requireNonnegativeCounter, bind_ok, pure_ok, requireSafe_ok_iff,
    requireFrom_ok_iff, requireSpread_ok_iff] at h
  obtain ⟨_, hschedule, _, ⟨-, -, rfl⟩, _, hdigest, _, hterminal, _, hlockId, _, hrfqDigest, _,
    hrfqFelt, _, htaker, _, htokenA, _, htokenB, _, ⟨-, -, rfl⟩, _, hticket, _, hlockTx, _,
    ⟨-, -, rfl⟩, _, ⟨-, -, rfl⟩, _, hproceeds, _, hrelease, _, hfailures, _, hnext, _, hreason, _,
    hquarantined, _, hcount, _, hattempt, _, hresolution, _, hchecks, _, hnonce, _, ⟨-, -, rfl⟩, _,
    hprovenance, _, hsignature, rfl⟩ := h
  refine ⟨?_, hschedule, hchecks⟩
  have hsafe : ∀ {least x y : Int} {message : String}, requireSafe least x message = .ok y →
      y = id x := fun h => (requireSafe_ok_iff.mp h).2.2
  rw [optionally_map (fun _ _ h => requireHex32_ok h) hdigest,
    optionally_map (fun _ _ h => canonicalTerminal_ok h) hterminal, requireFeltText_ok hlockId,
    requireHex32_ok hrfqDigest, requireFeltText_ok hrfqFelt, requireFeltText_ok htaker,
    requireFeltText_ok htokenA, requireFeltText_ok htokenB, requireFeltText_ok hticket,
    requireFeltText_ok hlockTx, optionally_map (fun _ _ h => requireFeltText_ok h) hproceeds,
    optionally_map (fun _ _ h => requireFeltText_ok h) hrelease,
    optionally_map (fun _ _ h => hsafe h) hfailures, optionally_map (fun _ _ h => hsafe h) hnext,
    optionally_map (fun _ _ h => requireText_ok h) hreason,
    optionally_map (fun _ _ h => hsafe h) hquarantined,
    optionally_map (fun _ _ h => hsafe h) hcount,
    optionally_map (fun _ _ h => canonicalAttempt_ok h) hattempt,
    optionally_map (fun _ _ h => canonicalResolution_ok h) hresolution, requireHex32_ok hnonce,
    requireText_ok hprovenance, optionally_map (fun _ _ h => requireText_ok h) hsignature]
  simp only [id_eq, Option.map_id']
  rfl

theorem canonicalStoredLock_again {r c : StoredLock} (h : canonicalStoredLock r = .ok c) :
    canonicalStoredLock c = .ok c := by
  simp only [canonicalStoredLock, bind_ok, pure_ok] at h
  obtain ⟨_, hschedule, _, hspread, _, hdigest, _, hterminal, _, hlockId, _, hrfqDigest, _,
    hrfqFelt, _, htaker, _, htokenA, _, htokenB, _, hexpiry, _, hticket, _, hlockTx, _, htakenA, _,
    htakenB, _, hproceeds, _, hrelease, _, hfailures, _, hnext, _, hreason, _, hquarantined, _,
    hcount, _, hattempt, _, hresolution, _, hchecks, _, hnonce, _, hquotedAt, _, hprovenance, _,
    hsignature, rfl⟩ := h
  have hspread : requireSpread _ = .ok _ := hspread
  obtain ⟨h0, h1, rfl⟩ := requireSpread_ok_iff.mp hspread
  simp only [canonicalStoredLock, bind_ok, pure_ok]
  exact ⟨_, hschedule, _, hspread, _, optionally_again (fun _ _ h => requireHex32_again h) hdigest,
    _, optionally_again (fun _ _ h => canonicalTerminal_again h) hterminal,
    _, requireFeltText_again hlockId, _, requireHex32_again hrfqDigest,
    _, requireFeltText_again hrfqFelt, _, requireFeltText_again htaker,
    _, requireFeltText_again htokenA, _, requireFeltText_again htokenB,
    _, requireSafe_again hexpiry, _, requireFeltText_again hticket,
    _, requireFeltText_again hlockTx, _, requireFrom_again htakenA, _, requireFrom_again htakenB,
    _, optionally_again (fun _ _ h => requireFeltText_again h) hproceeds,
    _, optionally_again (fun _ _ h => requireFeltText_again h) hrelease,
    _, optionally_again (fun _ _ h => requireSafe_again h) hfailures,
    _, optionally_again (fun _ _ h => requireSafe_again h) hnext,
    _, optionally_again (fun _ _ h => requireText_again h) hreason,
    _, optionally_again (fun _ _ h => requireSafe_again h) hquarantined,
    _, optionally_again (fun _ _ h => requireSafe_again h) hcount,
    _, optionally_again (fun _ _ h => canonicalAttempt_again h) hattempt,
    _, optionally_again (fun _ _ h => canonicalResolution_again h) hresolution,
    _, hchecks, _, requireHex32_again hnonce, _, requireSafe_again hquotedAt,
    _, requireText_again hprovenance,
    _, optionally_again (fun _ _ h => requireText_again h) hsignature, rfl⟩

/-! ## Items -/

/-- What operations must not take from each other. An attempt counts by its number and action. -/
structure Items where
  quoteDigest : Option Text
  signature : Option Text
  terminal : Option V3TerminalReconciliation
  attempt : Option (Int × SettlementAction)
  attempts : Int

/-- The items of a lock that has just been made. -/
def Items.fresh : Items := ⟨none, none, none, none, 0⟩

def StoredLock.items (r : StoredLock) : Items where
  quoteDigest := r.quoteDigest
  signature := r.signature
  terminal := r.terminalReconciliation
  attempt := r.settlementAttempt.map fun a => (a.attempt, a.action)
  attempts := r.settlementAttemptCount.getD 0

def Items.normal (i : Items) : Items :=
  { i with
    quoteDigest := i.quoteDigest.map lowered, signature := i.signature.map trim
    terminal := i.terminal.map V3TerminalReconciliation.normal }

theorem normal_items (r : StoredLock) : r.normal.items = r.items.normal := by
  simp only [StoredLock.items, StoredLock.normal, Items.normal, Option.map_map]
  rfl

end App20.Maker
