import App20.Maker.Inventory

/-!
# What is promised of a token

What the reservations and locks of the books hold of a token, with tokens compared as felts, and
what an admission says about it.

* `reserveDraft_admitted`: after `reserve` it is within the balance, if the reservations of the
  token that are counted were all spelled as in the request.
* `acquireLock_acquired`: after `quoteV3` it is within the balance.
-/

namespace App20.Maker

open App20.Lib App20.Lib.Exec App20.Domain App20.Intents
open App20.Reservation (StoredReservation createMakerReservation_ok)

def promised (b : Books) (token : Text) (now : Int) : Int :=
  legacyReserved b.records token + unresolvedLocks b.locks token now

/-- The reservation holds inventory, and goes on to hold it when the draft is pruned. -/
def holdsCapacity (r : StoredReservation) (now : Int) : Bool :=
  capacityLockedState r.reservation.state ∧
    ¬ (r.reservation.state = .reserved ∧ r.reservation.expiresAt ≤ now)

/-- The reservations that hold the token spell it as this text, up to letter case. -/
def SpelledAs (records : Records) (token : Text) (now : Int) : Prop :=
  ∀ r ∈ records.entries, holdsCapacity r now = true → sameFelt r.buyToken token = true →
    toLowerCase (trim r.buyToken) = toLowerCase token

instance (records : Records) (token : Text) (now : Int) : Decidable (SpelledAs records token now) :=
  inferInstanceAs (Decidable (∀ _ ∈ _, _))

theorem parseBigInt_trim (t : Text) : parseBigInt (trim t) = parseBigInt t := by
  unfold parseBigInt
  rw [trim_trim]

theorem sameFelt_trim (t token : Text) : sameFelt (trim t) token = sameFelt t token := by
  unfold sameFelt
  rw [parseBigInt_trim]

/-! ## Pruning -/

variable {now balance walletBalance : Int} {s t : Books} {r p : StoredReservation}
  {token rfqDigest : Text} {config : Config} {request : MakerQuoteRequest}
  {offer : MakerReservationOffer} {answers : QuoteAnswers} {rfq : PrivateRfqV2}
  {built : MakerSchedule} {record : StoredLock} {a : Acquisition}

theorem returns_pruneDraft {u : Unit} :
    Returns (pruneDraft now) s u t ↔
      ∃ records, s.records.mapM (pruneRecord now) = .ok records ∧ t = { s with records } := by
  unfold pruneDraft
  rw [returns_get_bind]
  constructor
  · intro h
    obtain ⟨records, hrecords, h⟩ := returns_lift_bind.mp h
    cases h
    exact ⟨records, hrecords, rfl⟩
  · rintro ⟨records, hrecords, rfl⟩
    exact returns_lift_bind.mpr ⟨records, hrecords, rfl⟩

/-- Pruning changes at most the reservation of a record: one that was reserved expires, and any
other that was active is quarantined. -/
theorem pruneRecord_ok (h : pruneRecord now r = .ok p) :
    (p = r ∧ (activeState r.reservation.state = false ∨ now < r.reservation.expiresAt)) ∨
      ∃ n c, p = { r with reservation := n } ∧ Reservation.Transitioned r.reservation c n ∧
        activeState r.reservation.state = true ∧ r.reservation.expiresAt ≤ now ∧
        ((r.reservation.state = .reserved ∧ n.state = .expired) ∨
          (r.reservation.state ≠ .reserved ∧ n.state = .quarantined ∧
            n.settlementAttemptId = r.reservation.settlementAttemptId ∧
            n.settlementTransactionHash = r.reservation.settlementTransactionHash)) := by
  unfold pruneRecord at h
  split at h
  · rename_i hkept
    cases h
    exact Or.inl ⟨rfl, hkept⟩
  · rename_i hpruned
    rw [not_or, Bool.not_eq_false, Int.not_lt] at hpruned
    simp only [bind_ok, pure_ok] at h
    obtain ⟨n, hn, rfl⟩ := h
    have ht := Reservation.transition_ok (ofProtocol_ok hn)
    refine Or.inr ⟨n, _, rfl, ht, hpruned.1, hpruned.2, ?_⟩
    have hstep := ht.step
    split at hstep
    · rename_i hreserved
      cases hstep
      exact Or.inl ⟨hreserved, rfl⟩
    · rename_i hother
      cases hstep
      exact Or.inr ⟨hother, rfl, rfl, rfl⟩

theorem recordKey_prune (h : pruneRecord now r = .ok p) : recordKey p = recordKey r := by
  rcases pruneRecord_ok h with ⟨rfl, -⟩ | ⟨n, c, rfl, ht, -⟩
  · rfl
  · exact ht.step.same.reservationId.symm

theorem mem_pruned {t t' : Records} (h : t.mapM (pruneRecord now) = .ok t') (hp : p ∈ t'.entries) :
    ∃ r ∈ t.entries, pruneRecord now r = .ok p := Table.mapM_mem (fun _ _ => recordKey_prune) h hp

theorem pruneRecord_holds (h : pruneRecord now r = .ok p) :
    p.buyToken = r.buyToken ∧ p.buyAmount = r.buyAmount ∧
      (capacityLockedState p.reservation.state = true → holdsCapacity r now = true) := by
  rcases pruneRecord_ok h with ⟨rfl, hkept⟩ | ⟨n, c, rfl, -, hactive, -, hstates⟩
  · refine ⟨rfl, rfl, fun hlocked => decide_eq_true ⟨hlocked, ?_⟩⟩
    rintro ⟨hreserved, hexpired⟩
    rcases hkept with hkept | hkept
    · rw [hreserved] at hkept
      cases hkept
    · omega
  · refine ⟨rfl, rfl, fun hlocked => ?_⟩
    rcases hstates with ⟨-, hexpired⟩ | ⟨hother, -⟩
    · simp [hexpired, capacityLockedState, activeState] at hlocked
    · refine decide_eq_true ⟨?_, fun hreserved => hother hreserved.1⟩
      simp [capacityLockedState, hactive]

/-! ## `reserve` -/

def heldOf (token : Text) (r : StoredReservation) : Int :=
  if capacityLockedState r.reservation.state ∧ sameFelt r.buyToken token then r.buyAmount else 0

theorem heldOf_nonneg (h : 0 ≤ r.buyAmount) : 0 ≤ heldOf token r := by
  unfold heldOf
  split
  · exact h
  · exact le_refl 0

theorem heldOf_le (h : 0 ≤ r.buyAmount) : heldOf token r ≤ r.buyAmount := by
  unfold heldOf
  split
  · exact le_refl _
  · exact h

theorem legacyReserved_put_le {records : Records} (hpos : ∀ x ∈ records.entries, 0 ≤ x.buyAmount)
    (hr : 0 ≤ r.buyAmount) :
    legacyReserved (records.put r) token ≤ legacyReserved records token + r.buyAmount := by
  have hput : legacyReserved (records.put r) token ≤ legacyReserved records token + heldOf token r :=
    Table.total_put_le fun x hx => heldOf_nonneg (hpos x hx)
  have hle : heldOf token r ≤ r.buyAmount := heldOf_le hr
  omega

/-- The counted reservations are all that hold the token, if these spell it as the request. -/
theorem legacyReserved_le {records : Records} (hpos : ∀ r ∈ records.entries, 0 ≤ r.buyAmount)
    (halike : ∀ r ∈ records.entries, capacityLockedState r.reservation.state = true →
      sameFelt r.buyToken token = true → toLowerCase r.buyToken = toLowerCase token) :
    legacyReserved records token ≤ reservedAs records token := by
  apply Table.total_le
  intro r hr
  have hr0 := hpos r hr
  by_cases hheld : capacityLockedState r.reservation.state = true ∧ sameFelt r.buyToken token = true
  · rw [if_pos hheld, if_pos ⟨hheld.1, halike r hr hheld.1 hheld.2⟩]
  · rw [if_neg hheld]
    split
    · exact hr0
    · exact le_refl 0

/-- A new reservation is covered by what the balance leaves beside all that is held, and nothing
but the records is changed. -/
theorem admitReservation_admitted {answers : ReserveAnswers}
    (h : Returns (admitReservation config request rfqDigest answers now) s
      (.admitted offer balance) t) (hpos : ∀ r ∈ s.records.entries, 0 ≤ r.buyAmount)
    (halike : ∀ r ∈ s.records.entries, capacityLockedState r.reservation.state = true →
      sameFelt r.buyToken request.buyToken = true →
      toLowerCase r.buyToken = toLowerCase request.buyToken) (hlocks : CanonicalLocks s.locks) :
    promised t request.buyToken now ≤ balance ∧ t.locks = s.locks := by
  unfold admitReservation at h
  obtain ⟨price, hprice, h⟩ := returns_lift_bind.mp h
  obtain ⟨gross, provenance⟩ := price
  simp only [returns_lift_bind, returns_assert_bind, returns_get_bind] at h
  obtain ⟨gross', hgross, hfloor, balance', hbalance, wallet, hwallet, locks, hcloned, hcovered,
    id, hid, nonce, hnonce, reservation, hreservation, provenance', hprovenance, h⟩ := h
  obtain ⟨_, u, hset, h⟩ := returns_bind.mp h
  obtain ⟨hvalue, rfl⟩ := returns_pure.mp h
  cases hvalue
  cases hset
  rw [cloneLocks_eq hlocks] at hcloned
  cases hcloned
  obtain ⟨-, hamount, -⟩ := createMakerReservation_ok (ofProtocol_ok hreservation)
  refine ⟨?_, rfl⟩
  have hheld := legacyReserved_le hpos halike
  unfold promised
  refine le_trans (Int.add_le_add_right (legacyReserved_put_le hpos (le_of_lt hamount)) _) ?_
  dsimp only
  omega

/-- After `reserve` has made a reservation, what is promised of its token is within the balance
that it was given. -/
theorem reserveDraft_admitted {answers : ReserveAnswers}
    (h : Returns (reserveDraft config request rfqDigest answers now) s (.admitted offer balance) t)
    (hpos : ∀ r ∈ s.records.entries, 0 ≤ r.buyAmount)
    (halike : SpelledAs s.records request.buyToken now)
    (hnormal : ∀ r ∈ s.records.entries, trim r.buyToken = r.buyToken)
    (hlocks : CanonicalLocks s.locks) :
    promised t request.buyToken now ≤ balance ∧ t.locks = s.locks := by
  unfold reserveDraft at h
  obtain ⟨_, p, hprune, h⟩ := returns_bind.mp h
  obtain ⟨records, hrecords, rfl⟩ := returns_pruneDraft.mp hprune
  rw [returns_get_bind] at h
  dsimp only at h
  split at h
  · apply admitReservation_admitted h _ _ hlocks
    · intro q hq
      obtain ⟨r, hr, hpruned⟩ := mem_pruned hrecords hq
      rw [(pruneRecord_holds hpruned).2.1]
      exact hpos r hr
    · intro q hq hheld hfelt
      obtain ⟨r, hr, hpruned⟩ := mem_pruned hrecords hq
      obtain ⟨htoken, -, hholds⟩ := pruneRecord_holds hpruned
      rw [htoken] at hfelt ⊢
      rw [← hnormal r hr]
      exact halike r hr (hholds hheld) hfelt
  · simp only [returns_assert_bind] at h
    obtain ⟨-, -, h⟩ := h
    obtain ⟨hvalue, -⟩ := returns_pure.mp h
    cases hvalue

theorem reserve_admitted {answers : ReserveAnswers} {append : Append} {j j' : Journal Books}
    (h : transaction (reserveDraft config request rfqDigest answers now) append j =
      (.ok (.admitted offer balance), j'))
    (halike : SpelledAs j.memory.records request.buyToken now)
    (hlocks : CanonicalLocks j.memory.locks) :
    promised j'.memory request.buyToken now ≤ balance := by
  obtain ⟨records, u, v, hrecords, hbody, hclone, hmemory, -⟩ := transaction_ok h
  have hbooks := reserveDraft_admitted hbody
    (by
      intro c hc
      obtain ⟨r, -, -, -, hnormal⟩ := mem_cloneRecords hrecords hc
      exact le_of_lt hnormal.buyAmount_pos)
    (by
      intro c hc hholds hfelt
      obtain ⟨r, hr, rfl, -⟩ := mem_cloneRecords hrecords hc
      have hspelled := halike r hr hholds ((sameFelt_trim r.buyToken _).symm.trans hfelt)
      show toLowerCase (trim (trim r.buyToken)) = _
      rw [trim_trim, hspelled])
    (by
      intro c hc
      obtain ⟨r, -, rfl, -⟩ := mem_cloneRecords hrecords hc
      exact trim_trim r.buyToken)
    hlocks
  rw [withLocks_eq (hbooks.2 ▸ hlocks)] at hclone
  cases hclone
  rw [hmemory]
  exact hbooks.1

/-! ## `quoteV3` -/

theorem not_acquired_of_refuse {code : RefusalCode} {reason : Text} :
    ¬ Returns (refuse code reason) s (.acquired record balance) t := by
  intro h
  obtain ⟨_, -, h⟩ := returns_lift_bind.mp h
  obtain ⟨hvalue, -⟩ := returns_pure.mp h
  cases hvalue

/-- A new lock is one more entry of the table, for the last payout of the schedule. -/
theorem putNewLock_acquired {last : PriceSchedulePoint}
    (h : Returns (putNewLock rfq rfqDigest built last walletBalance answers now) s
      (.acquired record balance) t) :
    balance = walletBalance ∧ t = { s with locks := s.locks.put record } ∧
      s.locks.get? record.lockId = none ∧ record.maxB = last.b ∧ 0 < last.b ∧
      canonicalStoredLock record = .ok record ∧ record.state = .locking ∧
      record.items = .fresh ∧ record.lockTxHash = "0x0".toList := by
  unfold putNewLock at h
  split at h
  · exact absurd h not_acquired_of_refuse
  · split at h
    · exact absurd h not_acquired_of_refuse
    · rw [returns_get_bind] at h
      split at h
      · exact absurd h not_acquired_of_refuse
      · rename_i hnew
        obtain ⟨r, hr, h⟩ := returns_lift_bind.mp h
        obtain ⟨_, u, hset, h⟩ := returns_bind.mp h
        obtain ⟨hvalue, rfl⟩ := returns_pure.mp h
        cases hvalue
        cases hset
        obtain ⟨hrecord, hschedule, -⟩ := canonicalStoredLock_ok hr
        have hagain := canonicalStoredLock_again hr
        subst hrecord
        have hlockId : ∀ n, lowered (hex n) = hex n := fun n => by
          rw [lowered, trim_hex, toLowerCase_hex]
        refine ⟨rfl, rfl, ?_, rfl, checkSchedule_pos hschedule, hagain, rfl, rfl, hlockId 0⟩
        simp only [StoredLock.normal, hlockId]
        exact Option.not_isSome_iff_eq_none.mp hnew

theorem lockSchedule_acquired {available : Int}
    (h : Returns (lockSchedule config rfq rfqDigest built available walletBalance answers now) s
      (.acquired record balance) t) :
    ∃ last, last.b ≤ available ∧
      Returns (putNewLock rfq rfqDigest built last walletBalance answers now) s
        (.acquired record balance) t := by
  unfold lockSchedule at h
  split at h
  · rename_i first last _ _ _
    split at h
    · exact absurd h not_acquired_of_refuse
    · rename_i hinside
      rw [not_or, not_or, Int.not_lt, Int.not_lt] at hinside
      split at h
      · exact absurd h not_acquired_of_refuse
      · exact ⟨last, hinside.2.2, h⟩
  · exact absurd h not_acquired_of_refuse
  · exact absurd h not_acquired_of_refuse

theorem acquireLock_acquired
    (h : Returns (acquireLock config rfq rfqDigest answers now) s (.acquired record balance) t) :
    t = { s with locks := s.locks.put record } ∧ s.locks.get? record.lockId = none ∧
      canonicalStoredLock record = .ok record ∧ record.state = .locking ∧
      record.items = .fresh ∧ record.lockTxHash = "0x0".toList ∧
      ∃ records, cloneRecords s.records = .ok records ∧
        legacyReserved records rfq.buyToken + unresolvedLocks s.locks rfq.buyToken now +
          record.maxB ≤ balance := by
  unfold acquireLock at h
  rw [returns_get_bind] at h
  dsimp only at h
  split at h
  · split at h
    · obtain ⟨hvalue, -⟩ := returns_pure.mp h
      cases hvalue
    · exact absurd h not_acquired_of_refuse
  · split at h
    · exact absurd h not_acquired_of_refuse
    · obtain ⟨records, hrecords, h⟩ := returns_lift_bind.mp h
      split at h
      · exact absurd h not_acquired_of_refuse
      · exact absurd h not_acquired_of_refuse
      · obtain ⟨last, hcap, hput⟩ := lockSchedule_acquired h
        obtain ⟨rfl, ht, hnew, hmaxB, hpos, hcanonical, hstate, hitems, hhash⟩ :=
          putNewLock_acquired hput
        refine ⟨ht, hnew, hcanonical, hstate, hitems, hhash, records, hrecords, ?_⟩
        -- with nothing available no payout fits
        split at hcap <;> omega

theorem returns_refuse {code : RefusalCode} {reason : Text}
    (h : Returns (refuse code reason) s a t) : t = s := by
  obtain ⟨_, -, h⟩ := returns_lift_bind.mp h
  exact (returns_pure.mp h).2

theorem putNewLock_returns {last : PriceSchedulePoint}
    (h : Returns (putNewLock rfq rfqDigest built last walletBalance answers now) s a t) :
    t = s ∨ ∃ record balance, a = .acquired record balance := by
  unfold putNewLock at h
  split at h
  · exact Or.inl (returns_refuse h)
  · split at h
    · exact Or.inl (returns_refuse h)
    · rw [returns_get_bind] at h
      split at h
      · exact Or.inl (returns_refuse h)
      · obtain ⟨record, -, h⟩ := returns_lift_bind.mp h
        obtain ⟨_, _, -, h⟩ := returns_bind.mp h
        exact Or.inr ⟨record, walletBalance, (returns_pure.mp h).1⟩

theorem lockSchedule_returns {available : Int}
    (h : Returns (lockSchedule config rfq rfqDigest built available walletBalance answers now)
      s a t) : t = s ∨ ∃ record balance, a = .acquired record balance := by
  unfold lockSchedule at h
  split at h
  · split at h
    · exact Or.inl (returns_refuse h)
    · split at h
      · exact Or.inl (returns_refuse h)
      · exact putNewLock_returns h
  · exact Or.inl (returns_refuse h)
  · exact Or.inl (returns_refuse h)

/-- Without a new lock nothing is changed. -/
theorem acquireLock_returns (h : Returns (acquireLock config rfq rfqDigest answers now) s a t) :
    t = s ∨ ∃ record balance, a = .acquired record balance := by
  unfold acquireLock at h
  rw [returns_get_bind] at h
  dsimp only at h
  split at h
  · split at h
    · exact Or.inl (returns_pure.mp h).2
    · exact Or.inl (returns_refuse h)
  · split at h
    · exact Or.inl (returns_refuse h)
    · obtain ⟨records, -, h⟩ := returns_lift_bind.mp h
      split at h
      · exact Or.inl (returns_refuse h)
      · exact Or.inl (returns_refuse h)
      · exact lockSchedule_returns h

/-- The first transaction of `quoteV3`, on the books as they were before it. -/
theorem quote_acquired {append : Append} {j j' : Journal Books}
    (h : lockTransaction (acquireLock config rfq rfqDigest answers now) append j =
      (.ok (.acquired record balance), j')) (hlocks : CanonicalLocks j.memory.locks) :
    promised j'.memory rfq.buyToken now ≤ balance := by
  obtain ⟨locks, u, v, hcloned, hbody, hclone, hmemory, -⟩ := lockTransaction_ok h
  rw [cloneLocks_eq hlocks] at hcloned
  cases hcloned
  obtain ⟨rfl, hnew, hcanonical, -, -, -, records, hrecords, hcovered⟩ := acquireLock_acquired hbody
  obtain ⟨records', hrecords', hclone⟩ := bind_ok.mp hclone
  rw [hrecords] at hrecords'
  cases hrecords'
  cases hclone
  have hpos := checkSchedule_pos (canonicalStoredLock_ok hcanonical).2.1
  have hput : unresolvedLocks (j.memory.locks.put record) rfq.buyToken now ≤
      unresolvedLocks j.memory.locks rfq.buyToken now + record.maxB := by
    refine le_trans (le_of_eq (Table.total_put_of_new hnew)) (Int.add_le_add_left ?_ _)
    split
    · exact le_refl _
    · exact le_of_lt hpos
  have hcovered : legacyReserved records rfq.buyToken +
      unresolvedLocks j.memory.locks rfq.buyToken now + record.maxB ≤ balance := hcovered
  rw [hmemory]
  show legacyReserved records _ + unresolvedLocks (j.memory.locks.put record) _ _ ≤ balance
  omega

end App20.Maker
