import App20.Reservation.Attempts

/-!
# Pending attempts and filling records

A pending attempt is that of a record which is being filled for it, as long as no commit
quarantines such a record. Then a recovery finds every record as it needs it. A commit that does
leaves the attempt pending, and no recovery succeeds after it.
-/

namespace App20.Reservation

open App20.Lib App20.Lib.Exec App20.Domain

/-! ## The correspondence -/

/-- The record that an attempt names is being filled for it. -/
def FillingFor (db : Database) (a : AttemptRow) : Prop :=
  ∃ r, db.records a.reservationId = some r ∧ r.reservation.state = .filling ∧
    r.reservation.settlementAttemptId = some a.idempotencyKey

def Corresponding (db : Database) : Prop := ∀ a ∈ db.attempts, a.status = .pending ↔ FillingFor db a

/-- A version that does not quarantine a record which is being filled. -/
def KeepsFilling (current : Option ReservationState) (next : ReservationState) : Prop :=
  ¬ (current = some .filling ∧ next = .quarantined)

instance : DecidableRel KeepsFilling := fun _ _ => inferInstanceAs (Decidable (¬ _))

section Correspondence

variable {db : Database} {next : StoredReservation} {a : AttemptRow}

theorem FillingFor.stored {r : StoredReservation} (h : FillingFor db a)
    (hr : db.records a.reservationId = some r) :
    r.reservation.state = .filling ∧ r.reservation.settlementAttemptId = some a.idempotencyKey := by
  obtain ⟨r', hr', hfilling⟩ := h
  rw [hr] at hr'
  cases hr'
  exact hfilling

theorem fillingFor_write_self (hid : a.reservationId = next.reservation.reservationId) :
    FillingFor (db.write next) a ↔ next.reservation.state = .filling ∧
      next.reservation.settlementAttemptId = some a.idempotencyKey := by
  have hself : (db.write next).records a.reservationId = some next := by
    rw [hid]
    exact records_write_self
  constructor
  · intro h
    exact h.stored hself
  · intro h
    exact ⟨next, hself, h⟩

theorem fillingFor_write_of_ne (hid : a.reservationId ≠ next.reservation.reservationId) :
    FillingFor (db.write next) a ↔ FillingFor db a := by
  unfold FillingFor
  rw [records_write_of_ne hid]

/-- A version is stored that is not filled for `a`, in place of a record that was not either. -/
theorem fillingFor_write (hbefore : a.reservationId = next.reservation.reservationId →
      ¬ FillingFor db a) (hafter : ¬ (next.reservation.state = .filling ∧
      next.reservation.settlementAttemptId = some a.idempotencyKey)) :
    FillingFor (db.write next) a ↔ FillingFor db a := by
  by_cases hid : a.reservationId = next.reservation.reservationId
  · rw [fillingFor_write_self hid]
    exact iff_of_false hafter (hbefore hid)
  · exact fillingFor_write_of_ne hid

/-- A record that is not being filled is replaced by one that is not either. -/
theorem Corresponding.write (h : Corresponding db)
    (hbefore : ∀ current, db.records next.reservation.reservationId = some current →
      current.reservation.state ≠ .filling)
    (hafter : next.reservation.state ≠ .filling) : Corresponding (db.write next) := by
  intro a ha
  refine (h a ha).trans (fillingFor_write ?_ fun hnext => hafter hnext.1).symm
  rintro hid ⟨r, hr, hfilling, -⟩
  rw [hid] at hr
  exact hbefore r hr hfilling

theorem Revised.not_filling {r n : MakerReservation} (h : Revised r n)
    (hkeeps : KeepsFilling (some r.state) n.state) : r.state ≠ .filling ∧ n.state ≠ .filling := by
  rcases h.states with ⟨hr, hn⟩ | ⟨hr, hn⟩ | ⟨hr, hn⟩ | hn
  · rw [hr, hn]
    decide
  · exact ⟨hr, by rw [hn]; decide⟩
  · rw [hr, hn]
    decide
  · exact ⟨fun hr => hkeeps ⟨congrArg some hr, hn⟩, by rw [hn]; decide⟩

theorem Corresponding.claim {attempt : AttemptRow} {current : StoredReservation}
    {n : MakerReservation} (h : Corresponding db) (hid : n.reservationId = attempt.reservationId)
    (hstored : db.records attempt.reservationId = some current)
    (hselected : current.reservation.state = .selected) (hfilling : n.state = .filling)
    (hkey : n.settlementAttemptId = some attempt.idempotencyKey)
    (hpending : attempt.status = .pending)
    (hnew : ∀ a ∈ db.attempts, a.idempotencyKey ≠ attempt.idempotencyKey) :
    Corresponding ((db.write { current with reservation := n }).claim attempt) := by
  intro a ha
  change a.status = .pending ↔ FillingFor (db.write { current with reservation := n }) a
  rcases List.mem_append.mp ha with hmem | hmem
  · refine (h a hmem).trans (fillingFor_write ?_ ?_).symm
    · -- the record was selected
      intro heq hbefore
      have hstate := (hbefore.stored (by rw [heq, hid]; exact hstored)).1
      rw [hselected] at hstate
      cases hstate
    · rintro ⟨-, hother⟩
      have heq : some attempt.idempotencyKey = some a.idempotencyKey := hkey.symm.trans hother
      exact hnew a hmem (Option.some.inj heq).symm
  · obtain rfl : a = attempt := List.mem_singleton.mp hmem
    rw [fillingFor_write_self hid.symm]
    exact iff_of_true hpending ⟨hfilling, hkey⟩

theorem Corresponding.finish {attempt : AttemptRow} {current : StoredReservation}
    {n : MakerReservation} {outcome : AttemptOutcome} (hs : Sound db) (h : Corresponding db)
    (hid : n.reservationId = attempt.reservationId)
    (hstored : db.records attempt.reservationId = some current) (hmem : attempt ∈ db.attempts)
    (hkey : current.reservation.settlementAttemptId = some attempt.idempotencyKey)
    (hended : n.state ≠ .filling) :
    Corresponding ((db.write { current with reservation := n }).settle attempt.idempotencyKey
      outcome) := by
  intro a ha
  change a.status = .pending ↔ FillingFor (db.write { current with reservation := n }) a
  rcases mem_settle.mp ha with ⟨hamem, hne⟩ | ⟨b, hb, hbkey, rfl⟩
  · refine (h a hamem).trans (fillingFor_write ?_ fun hnext => hended hnext.1).symm
    -- the record was filled for the attempt that ends
    intro heq hbefore
    have hother := (hbefore.stored (by rw [heq, hid]; exact hstored)).2
    exact hne (Option.some.inj (hkey.symm.trans hother)).symm
  · have hsame : b = attempt := hs.unique hb hmem hbkey
    have hbid : (b.complete outcome).reservationId = n.reservationId := by
      rw [hid, ← hsame]
      rfl
    rw [fillingFor_write_self hbid]
    refine iff_of_false ?_ fun hnext => hended hnext.1
    intro hstatus
    cases hstatus

theorem Corresponding.effect {db' : Database} (hs : Sound db) (h : Effect KeepsFilling db db')
    (hc : Corresponding db) : Corresponding db' := by
  cases h with
  | create _ fresh created _ _ _ _ =>
    apply hc.write
    · intro current hcurrent
      rw [fresh] at hcurrent
      cases hcurrent
    · rw [created.state]
      decide
  | revise stored revised allowed _ _ =>
    obtain ⟨hcurrent, hnext⟩ := revised.not_filling allowed
    apply hc.write _ hnext
    intro r hr
    rw [stored] at hr
    cases hr
    exact hcurrent
  | claim stored unclaimed pending step key =>
    obtain ⟨hselected, hfilling⟩ := step.selected
    exact hc.claim (hs.transition_id stored step) stored hselected hfilling key pending.1 unclaimed
  | finish stored claimed _ _ key step =>
    apply Corresponding.finish hs hc (hs.transition_id stored step) stored claimed key
    rcases step.ended with h | h <;> rw [h] <;> decide

end Correspondence

/-! ## Recovery -/

/-- The errors of a recovery that finds the reservation of a pending attempt not filling. -/
def Mismatched (e : LedgerError) : Prop := e = .pendingMismatch ∨ e = .lostTombstone

section Avoiding

variable {α β : Type} {db : Database} {B : LedgerError → Prop}

theorem avoids_get_bind {k : Database → LedgerM β} :
    Avoids (get >>= k) db B ↔ Avoids (k db) db B := Iff.rfl

theorem avoids_modify_bind {f : Database → Database} {k : Unit → LedgerM β} :
    Avoids (modify f >>= k) db B ↔ Avoids (k ()) (f db) B := Iff.rfl

theorem avoids_checked_bind {x : Except String α} {k : α → LedgerM β}
    (hk : ∀ a, x = .ok a → Avoids (k a) db Mismatched) :
    Avoids (checked x >>= k) db Mismatched := by
  unfold checked
  rw [avoids_lift_bind]
  cases x with
  | error e =>
    refine ⟨?_, ?_⟩
    · intro e' he'
      cases he'
      rintro (h | h) <;> cases h
    · intro a ha
      cases ha
  | ok a =>
    refine ⟨?_, ?_⟩
    · intro e' he'
      cases he'
    · intro b hb
      cases hb
      exact hk a rfl

theorem avoids_finishAttempt_bind {key : Text} {outcome : AttemptOutcome}
    {next : StoredReservation} {k : Unit → LedgerM β} (hk : ∀ db', Avoids (k ()) db' Mismatched) :
    Avoids (finishAttempt key outcome next >>= k) db Mismatched := by
  simp only [finishAttempt, saveAndAdvance, saveRecord, metadata, advanceMetadata, bind_assoc,
    pure_bind, avoids_modify_bind, avoids_get_bind, avoids_expect_bind]
  refine ⟨?_, fun _ _ => hk _⟩
  rintro - (h | h) <;> cases h

/-- The interruption of an attempt finds a record that is filled for it. -/
theorem avoids_interruptAttempt {a : AttemptRow} {time : Int} (hs : Sound db)
    (h : FillingFor db a) :
    Avoids (interruptAttempt a.reservationId a.idempotencyKey time) db Mismatched := by
  obtain ⟨r, hr, hfilling⟩ := h
  simp only [interruptAttempt, fillingRecord, reservationRow, requireStoredRecord, bind_assoc,
    pure_bind, avoids_get_bind, avoids_expect_bind, hr]
  refine ⟨fun hnone => absurd hnone (Option.some_ne_none r), ?_⟩
  intro row hrow
  cases hrow
  apply avoids_checked_bind
  intro c hc
  obtain ⟨rfl, -⟩ := eq_of_decode_encode (hs.normal _ _ hr) hc
  rw [avoids_assert_bind]
  refine ⟨fun hnot => absurd hfilling hnot, ?_⟩
  intro _
  apply avoids_checked_bind
  intro n _
  apply avoids_finishAttempt_bind
  intro _
  exact avoids_pure

end Avoiding

/-- Each iteration of a recovery leaves the records of the other pending attempts filling. -/
theorem avoids_recoverAttempts {time : Int} {rows : List AttemptRow} :
    ∀ {db : Database} {items : List Recovered}, Sound db → Corresponding db →
      (∀ p ∈ rows, p ∈ db.attempts ∧ p.status = .pending) →
      (rows.map AttemptRow.idempotencyKey).Nodup →
      Avoids (rows.foldlM (recoverAttempt time) items) db Mismatched := by
  induction rows with
  | nil =>
    intro db items _ _ _ _
    exact avoids_pure
  | cons p rows ih =>
    intro db items hs hc hrows hnodup
    obtain ⟨hmem, hpending⟩ := hrows p List.mem_cons_self
    obtain ⟨hnotin, hnodup⟩ := List.nodup_cons.mp hnodup
    have hfilling := (hc p hmem).mp hpending
    rw [List.foldlM_cons, avoids_bind]
    refine ⟨?_, ?_⟩
    · rw [recoverAttempt, avoids_bind]
      exact ⟨avoids_interruptAttempt hs hfilling, fun _ _ _ => avoids_pure⟩
    · intro items' u hp
      obtain ⟨r, u', heffect, hu, hk⟩ :=
        returns_interruptAttempt_bind (Q := KeepsFilling) hs hmem hpending hp
      obtain ⟨-, rfl⟩ := returns_pure.mp hk
      refine ih (hs.effect heffect) (hc.effect hs heffect) ?_ hnodup
      intro p' hp'
      obtain ⟨hmem', hpending'⟩ := hrows p' (List.mem_cons_of_mem _ hp')
      refine ⟨?_, hpending'⟩
      rw [hu]
      refine mem_settle.mpr (Or.inl ⟨hmem', ?_⟩)
      intro hkey
      exact hnotin (List.mem_map.mpr ⟨p', hp', hkey⟩)

theorem avoids_recover {db : Database} (hs : Sound db) (hc : Corresponding db) (body : Json) :
    Avoids (execute (.recover body)) db Mismatched := by
  change Avoids (recoverPendingAttempts body) db Mismatched
  simp only [recoverPendingAttempts, pendingAttemptRows, bind_assoc, pure_bind, avoids_lift_bind,
    avoids_get_bind]
  refine ⟨?_, ?_⟩
  · intro e he
    unfold positiveTime at he
    split at he
    · split at he
      · cases he
      · cases he
        rintro (h | h) <;> cases h
    · cases he
      rintro (h | h) <;> cases h
  · intro time _
    rw [avoids_bind]
    refine ⟨?_, fun _ _ _ => avoids_pure⟩
    exact avoids_recoverAttempts hs hc (fun p hp => mem_pendingAttempts.mp hp)
      (nodup_pendingAttempts hs)

/-! ## Runs -/

theorem corresponding_empty : Corresponding Database.empty := by
  intro a ha
  cases ha

/-- In every run whose commits quarantine no reservation that is being filled, an attempt is
pending exactly when its record is filling for it, in every state reached, and a recovery there
finds the reservation of every pending attempt filling. -/
theorem attempts_correspond {steps : List Step}
    (h : Along step (fun db s => s.Allowed KeepsFilling db) Database.empty steps) :
    Corresponding (reached steps) ∧
      ∀ body e, respond (reached steps) (.recover body) false = .error (some e) →
        ¬ Mismatched e := by
  obtain ⟨hs, hc⟩ := run_keeps (I := Corresponding) (fun _ h => h)
    (fun _ _ hs heffect hc => hc.effect hs heffect) h sound_empty corresponding_empty
  refine ⟨hc, ?_⟩
  intro body e he
  exact avoids_recover hs hc body e (fails_of_respond he)

/-! ## A run that quarantines a reservation while it is filled -/

def sampleWord (digit : Char) : Text := '0' :: 'x' :: List.replicate 64 digit

def sampleRecord : StoredReservation where
  reservation :=
    { reservationId := sampleWord '1', makerId := "maker".toList, intentDigest := sampleWord '2'
      rfqDigest := sampleWord '3', asset := "0x5".toList, amountBaseUnits := 1000
      createdAt := 100, expiresAt := 1000, updatedAt := 100, fence := 1, state := .reserved
      selectedQuoteDigest := none, settlementAttemptId := none
      settlementTransactionHash := none, terminalReason := none }
  nonce := sampleWord '7'
  solverId := "solver".toList
  solverKey := "key".toList
  spreadBps := 10
  sellToken := "0x5".toList
  sellAmount := 1000
  buyToken := "0x6".toList
  grossBuyAmount := 2000
  buyAmount := 1990
  minBuyAmount := 1900
  rfqExpiresAt := 900
  pricingProvenance := "book".toList
  quote := none
  settlementDealId := none
  settlementDeadline := none
  settlementTicketAddress := none
  authorityQuarantine := none
  terminalReconciliation := none

def sampleSelected : StoredReservation :=
  { sampleRecord with reservation := { sampleRecord.reservation with
      updatedAt := 101, fence := 2, state := .selected
      selectedQuoteDigest := some (sampleWord '4') } }

def sampleQuarantined : StoredReservation :=
  { sampleSelected with reservation := { sampleSelected.reservation with
      updatedAt := 103, fence := 4, state := .quarantined
      settlementAttemptId := some (sampleWord '5')
      terminalReason := some "operator".toList } }

def commitOf (revision : Int) (record : StoredReservation) (expectedFence : Json) : Step :=
  .request (.commit (.object [("expectedRevision", .number revision),
    ("mutations", .array [.object [("record", record.encode),
      ("expectedFence", expectedFence)]])])) false

def sampleBegin : Step :=
  .request (.begin (.object [("reservationId", .string (sampleWord '1')),
    ("expectedFence", .string "2".toList), ("idempotencyKey", .string (sampleWord '5')),
    ("payloadDigest", .string (sampleWord '6')), ("at", .number 102)])) false

def recoverBody : Json := .object [("at", .number 104)]

/-- A reservation is created, selected and begun. -/
def fillingRun : List Step :=
  [.restart, commitOf 0 sampleRecord .null, commitOf 1 sampleSelected (.string "1".toList),
    sampleBegin]

def quarantinedRun : List Step :=
  fillingRun ++ [commitOf 3 sampleQuarantined (.string "3".toList)]

instance (db : Database) (a : AttemptRow) : Decidable (FillingFor db a) :=
  match h : db.records a.reservationId with
  | none => .isFalse fun hfilling => by
    obtain ⟨r, hr, -⟩ := hfilling
    rw [h] at hr
    cases hr
  | some r =>
    decidable_of_iff (r.reservation.state = .filling ∧
        r.reservation.settlementAttemptId = some a.idempotencyKey)
      ⟨fun hr => ⟨r, h, hr⟩, fun hfilling => hfilling.stored h⟩

instance (db : Database) : Decidable (Corresponding db) :=
  inferInstanceAs (Decidable (∀ a ∈ db.attempts, _))

theorem attempts_correspond_fillingRun : Corresponding (reached fillingRun) ∧
    (respond (reached fillingRun) (.recover .null) false = .error (some .invalidTimestamp) ∧
      ¬ Mismatched .invalidTimestamp) := by
  have halong : Along step (fun db s => s.Allowed KeepsFilling db) Database.empty fillingRun := by
    decide +kernel
  have hrespond : respond (reached fillingRun) (.recover .null) false =
      .error (some .invalidTimestamp) := by
    decide +kernel
  obtain ⟨hcorresponding, hrecover⟩ := attempts_correspond halong
  exact ⟨hcorresponding, hrespond, hrecover _ _ hrespond⟩

theorem quarantinedRun_mismatch : ¬ Corresponding (reached quarantinedRun) ∧
    respond (reached quarantinedRun) (.recover recoverBody) false =
      .error (some .pendingMismatch) := by
  decide +kernel

end App20.Reservation
