import App20.Reservation.Ledger

/-!
# What requests do to the tables

Every request that is answered makes a chain of single effects: a new record, a new version of a
record, a claim, the end of an attempt. What each effect keeps, every run keeps.
-/

namespace App20.Reservation

open App20.Lib App20.Lib.Exec App20.Domain

/-! ## Tables -/

/-- Store a version, and advance the metadata by it. -/
def Database.write (db : Database) (record : StoredReservation) : Database :=
  { db.save record with metadata := db.metadata.map fun row => row.next record.reservation.fence }

def Database.claim (db : Database) (attempt : AttemptRow) : Database :=
  { db with attempts := db.attempts ++ [attempt] }

def Database.highWater (db : Database) : Int := (db.metadata.map MetadataRow.highWater).getD 0

/-! ## Effects -/

/-- A single effect. `Q` is which versions a commit may store: the state of the stored version, if
there is one, and the state of the new one. -/
inductive Effect (Q : Option ReservationState → ReservationState → Prop) (db : Database) :
    Database → Prop where
  | create {next : StoredReservation} (ready : db.metadata.isSome)
      (fresh : db.records next.reservation.reservationId = none)
      (created : Created next.reservation) (allowed : Q none next.reservation.state)
      (fence : next.reservation.fence = db.highWater + 1)
      (valid : assertReservation next.reservation = .ok ()) (normal : Normal next) :
      Effect Q db (db.write next)
  | revise {current next : StoredReservation}
      (stored : db.records next.reservation.reservationId = some current)
      (revised : Revised current.reservation next.reservation)
      (allowed : Q (some current.reservation.state) next.reservation.state)
      (valid : assertReservation next.reservation = .ok ()) (normal : Normal next) :
      Effect Q db (db.write next)
  | claim {current : StoredReservation} {n : MakerReservation} {attempt : AttemptRow} {time : Int}
      (stored : db.records attempt.reservationId = some current)
      (unclaimed : ∀ a ∈ db.attempts, a.idempotencyKey ≠ attempt.idempotencyKey)
      (pending : attempt.status = .pending ∧ attempt.outcome = none)
      (step : Transitioned current.reservation
        (.beginFill current.reservation.fence time attempt.idempotencyKey) n)
      (key : n.settlementAttemptId = some attempt.idempotencyKey) :
      Effect Q db ((db.write { current with reservation := n }).claim attempt)
  | finish {current : StoredReservation} {n : MakerReservation} {attempt : AttemptRow}
      {outcome : AttemptOutcome} {time : Int}
      (stored : db.records attempt.reservationId = some current)
      (claimed : attempt ∈ db.attempts) (pending : attempt.status = .pending)
      (filling : current.reservation.state = .filling)
      (key : current.reservation.settlementAttemptId = some attempt.idempotencyKey)
      (step : Transitioned current.reservation (outcome.command current.reservation.fence time) n) :
      Effect Q db
        ((db.write { current with reservation := n }).settle attempt.idempotencyKey outcome)

/-- The effects of a request or a run, one after the other. -/
abbrev Effects (Q : Option ReservationState → ReservationState → Prop) :
    Database → Database → Prop := Relation.ReflTransGen (Effect Q)

theorem Effects.keeps {Q : Option ReservationState → ReservationState → Prop} {I : Database → Prop}
    (hI : ∀ db db', Effect Q db db' → I db → I db') {db db' : Database} (h : Effects Q db db')
    (hdb : I db) : I db' := by
  induction h with
  | refl => exact hdb
  | tail _ heffect ih => exact hI _ _ heffect ih

/-! ## Tables that are sound -/

/-- What the requests rely on when they read the tables. -/
structure Sound (db : Database) : Prop where
  key : ∀ id r, db.records id = some r → r.reservation.reservationId = id
  normal : ∀ id r, db.records id = some r → Normal r
  keys : (db.attempts.map AttemptRow.idempotencyKey).Nodup
  outcome : ∀ a ∈ db.attempts, a.status = .completed → a.outcome.isSome

section Tables

variable {db : Database} {next : StoredReservation} {id key : Text} {outcome : AttemptOutcome}

theorem Normal.withReservation {r : StoredReservation} (h : Normal r) (n : MakerReservation) :
    Normal { r with reservation := n } :=
  ⟨h.nonce, h.solverId, h.solverKey, h.spreadBps, h.sellToken, h.sellAmount, h.buyToken,
    h.grossBuyAmount, h.buyAmount, h.minBuyAmount, h.rfqExpiresAt, h.pricingProvenance, h.quote,
    h.settlementDealId, h.settlementDeadline, h.settlementTicketAddress, h.authorityQuarantine,
    h.terminalReconciliation⟩

theorem records_write_self : (db.write next).records next.reservation.reservationId = some next :=
  Function.update_self ..

theorem records_write_of_ne (h : id ≠ next.reservation.reservationId) :
    (db.write next).records id = db.records id := Function.update_of_ne h ..

theorem mem_settle {a : AttemptRow} :
    a ∈ (db.settle key outcome).attempts ↔ (a ∈ db.attempts ∧ a.idempotencyKey ≠ key) ∨
        ∃ b ∈ db.attempts, b.idempotencyKey = key ∧ a = b.complete outcome := by
  simp only [Database.settle, List.mem_map]
  constructor
  · rintro ⟨b, hb, rfl⟩
    split
    · rename_i hkey
      exact Or.inr ⟨b, hb, hkey, rfl⟩
    · rename_i hkey
      exact Or.inl ⟨hb, hkey⟩
  · rintro (⟨ha, hkey⟩ | ⟨b, hb, hkey, rfl⟩)
    · exact ⟨a, ha, if_neg hkey⟩
    · exact ⟨b, hb, if_pos hkey⟩

theorem keys_settle : (db.settle key outcome).attempts.map AttemptRow.idempotencyKey =
    db.attempts.map AttemptRow.idempotencyKey := by
  simp only [Database.settle, List.map_map]
  apply List.map_congr_left
  intro a _
  simp only [Function.comp_apply]
  split <;> rfl

theorem Sound.write (h : Sound db) (hnormal : Normal next) : Sound (db.write next) := by
  refine ⟨?_, ?_, h.keys, h.outcome⟩
  · intro id r hr
    by_cases hid : id = next.reservation.reservationId
    · subst hid
      rw [records_write_self] at hr
      cases hr
      rfl
    · rw [records_write_of_ne hid] at hr
      exact h.key id r hr
  · intro id r hr
    by_cases hid : id = next.reservation.reservationId
    · subst hid
      rw [records_write_self] at hr
      cases hr
      exact hnormal
    · rw [records_write_of_ne hid] at hr
      exact h.normal id r hr

theorem Sound.settle (h : Sound db) : Sound (db.settle key outcome) := by
  refine ⟨h.key, h.normal, by rw [keys_settle]; exact h.keys, ?_⟩
  intro a ha hstatus
  rcases mem_settle.mp ha with ⟨hmem, -⟩ | ⟨b, -, -, rfl⟩
  · exact h.outcome a hmem hstatus
  · rfl

theorem Sound.claim {attempt : AttemptRow} (h : Sound db)
    (hnew : ∀ a ∈ db.attempts, a.idempotencyKey ≠ attempt.idempotencyKey)
    (hpending : attempt.status = .pending) : Sound (db.claim attempt) := by
  refine ⟨h.key, h.normal, ?_, ?_⟩
  · simp only [Database.claim, List.map_append, List.map_singleton]
    apply List.Nodup.append h.keys (List.nodup_singleton _)
    rw [List.disjoint_singleton]
    intro hmem
    obtain ⟨a, ha, heq⟩ := List.mem_map.mp hmem
    exact hnew a ha heq
  · intro a ha hstatus
    rcases List.mem_append.mp ha with hmem | hmem
    · exact h.outcome a hmem hstatus
    · rw [List.mem_singleton.mp hmem, hpending] at hstatus
      cases hstatus

end Tables

theorem Sound.effect {Q : Option ReservationState → ReservationState → Prop} {db db' : Database}
    (h : Effect Q db db')
    (hs : Sound db) : Sound db' := by
  cases h with
  | create _ _ _ _ _ _ normal | revise _ _ _ _ normal => exact hs.write normal
  | claim stored unclaimed pending _ _ =>
    exact (hs.write ((hs.normal _ _ stored).withReservation _)).claim unclaimed pending.1
  | finish stored _ _ _ _ _ =>
    exact (hs.write ((hs.normal _ _ stored).withReservation _)).settle

/-! ## Reading and writing -/

variable {β : Type} {body : Json} {input : AttemptBinding}

section Requests

variable {Q : Option ReservationState → ReservationState → Prop} {db t : Database}

theorem returns_checked {α : Type} {x : Except String α} {a : α} :
    Returns (checked x) db a t ↔ x = .ok a ∧ t = db := by
  unfold checked
  rw [returns_lift]
  cases x with
  | error | ok => simp [Except.mapError]

theorem returns_checked_bind {α : Type} {x : Except String α} {k : α → LedgerM β} {b : β} :
    Returns (checked x >>= k) db b t ↔ ∃ a, x = .ok a ∧ Returns (k a) db b t := by
  simp only [returns_bind, returns_checked, and_assoc, exists_and_left, exists_eq_left]

theorem returns_metadata_bind {k : MetadataRow → LedgerM β} {b : β} :
    Returns (metadata >>= k) db b t ↔
      ∃ row, db.metadata = some row ∧ row.revision ≤ maxSafeInteger ∧ Returns (k row) db b t := by
  unfold metadata
  simp only [bind_assoc, returns_get_bind, returns_expect_bind, Option.filter_eq_some_iff,
    decide_eq_true_eq, and_assoc]

theorem returns_saveAndAdvance_bind {next : StoredReservation} {k : Unit → LedgerM β} {b : β} :
    Returns (saveAndAdvance next >>= k) db b t ↔
      ∃ row, db.metadata = some row ∧ row.revision ≤ maxSafeInteger ∧
        Returns (k ()) (db.write next) b t := by
  simp only [saveAndAdvance, saveRecord, advanceMetadata, bind_assoc, pure_bind,
    returns_modify_bind, returns_metadata_bind]
  refine exists_congr fun row => and_congr_right fun hrow => and_congr_right fun _ => ?_
  have hmetadata : db.metadata = some row := hrow
  simp only [Database.write, Database.save, hmetadata, Option.map_some]

theorem returns_reservationRow_bind {id : Text} {k : Option StoredReservation → LedgerM β} {b : β} :
    Returns (reservationRow id >>= k) db b t ↔ Returns (k (db.records id)) db b t := by
  simp only [reservationRow, bind_assoc, returns_get_bind, pure_bind]

theorem returns_attemptRow_bind {key : Text} {k : Option AttemptRow → LedgerM β} {b : β} :
    Returns (attemptRow key >>= k) db b t ↔
      Returns (k (db.attempts.find? fun row => row.idempotencyKey = key)) db b t := by
  simp only [attemptRow, bind_assoc, returns_get_bind, pure_bind]

theorem returns_requireStored {id : Text} {row c : StoredReservation} (hs : Sound db)
    (hrow : db.records id = some row)
    (h : Returns (requireStoredRecord row.encode) db c t) : c = row ∧ t = db := by
  obtain ⟨hread, rfl⟩ := returns_checked.mp h
  exact ⟨(eq_of_decode_encode (hs.normal id row hrow) hread).1, rfl⟩

theorem returns_requireStored_bind {id : Text} {row : StoredReservation}
    {k : StoredReservation → LedgerM β} {b : β} (hs : Sound db) (hrow : db.records id = some row)
    (h : Returns (requireStoredRecord row.encode >>= k) db b t) : Returns (k row) db b t := by
  obtain ⟨c, u, hread, hk⟩ := returns_bind.mp h
  obtain ⟨rfl, rfl⟩ := returns_requireStored hs hrow hread
  exact hk

theorem returns_finishAttempt_bind {key : Text} {outcome : AttemptOutcome}
    {next : StoredReservation} {k : Unit → LedgerM β} {b : β}
    (h : Returns (finishAttempt key outcome next >>= k) db b t) :
    Returns (k ()) ((db.write next).settle key outcome) b t := by
  simp only [finishAttempt, bind_assoc, returns_saveAndAdvance_bind, returns_modify_bind] at h
  obtain ⟨_, -, -, hk⟩ := h
  exact hk

theorem returns_fillingRecord_bind {id key : Text} {mismatch : LedgerError}
    {k : StoredReservation → LedgerM β} {b : β} (hs : Sound db)
    (h : Returns (fillingRecord id key mismatch >>= k) db b t) :
    ∃ current, db.records id = some current ∧ current.reservation.state = .filling ∧
      current.reservation.settlementAttemptId = some key ∧ Returns (k current) db b t := by
  simp only [fillingRecord, bind_assoc, returns_reservationRow_bind, returns_expect_bind] at h
  obtain ⟨row, hrow, h⟩ := h
  have hread := returns_requireStored_bind hs hrow h
  simp only [pure_bind, returns_assert_bind] at hread
  exact ⟨row, hrow, hread.1.1, hread.1.2, hread.2⟩

theorem returns_interruptAttempt_bind {attempt : AttemptRow} {time : Int}
    {k : StoredReservation → LedgerM β} {b : β} (hs : Sound db) (hmem : attempt ∈ db.attempts)
    (hpending : attempt.status = .pending)
    (h : Returns (interruptAttempt attempt.reservationId attempt.idempotencyKey time >>= k) db b t) :
    ∃ r u, Effect Q db u ∧ u = (db.write r).settle attempt.idempotencyKey interruptedOutcome ∧
      Returns (k r) u b t := by
  simp only [interruptAttempt, bind_assoc] at h
  obtain ⟨current, hstored, hfilling, hkey, h⟩ := returns_fillingRecord_bind hs h
  simp only [returns_checked_bind] at h
  obtain ⟨n, hn, h⟩ := h
  have hstep : Transitioned current.reservation
      (interruptedOutcome.command current.reservation.fence
        (max time current.reservation.updatedAt)) n := transition_ok hn
  have hk := returns_finishAttempt_bind h
  simp only [pure_bind] at hk
  exact ⟨_, _, Effect.finish hstored hmem hpending hfilling hkey hstep, rfl, hk⟩

theorem find_key {attempts : List AttemptRow} {key : Text} {prior : AttemptRow}
    (h : attempts.find? (fun row => row.idempotencyKey = key) = some prior) :
    prior ∈ attempts ∧ prior.idempotencyKey = key := by
  refine ⟨List.mem_of_find?_eq_some h, ?_⟩
  have hkey := List.find?_some h
  exact of_decide_eq_true hkey

theorem find_key_none {attempts : List AttemptRow} {key : Text}
    (h : attempts.find? (fun row => row.idempotencyKey = key) = none) :
    ∀ a ∈ attempts, a.idempotencyKey ≠ key := by
  intro a ha hkey
  exact List.find?_eq_none.mp h a ha (decide_eq_true hkey)

theorem hexWord_ok {value : Option Json} {s : Text} (h : hexWord value = .ok s) :
    isHex32 s = true := by
  unfold hexWord at h
  split at h
  · split at h
    · rename_i hhex
      cases h
      exact hhex
    · cases h
  · cases h

theorem requireAttempt_ok (h : requireAttempt body = .ok input) :
    isHex32 input.idempotencyKey = true := by
  simp only [requireAttempt, bind_ok, pure_ok] at h
  obtain ⟨_, -, _, hkey, _, -, _, -, _, -, rfl⟩ := h
  exact hexWord_ok hkey

theorem returns_claimAttempt {answer : Answer} (hs : Sound db)
    (hhex : isHex32 input.idempotencyKey = true)
    (hnew : ∀ a ∈ db.attempts, a.idempotencyKey ≠ input.idempotencyKey)
    (h : Returns (claimAttempt input) db answer t) : Effect Q db t := by
  simp only [claimAttempt, returns_reservationRow_bind, returns_expect_bind] at h
  obtain ⟨row, hrow, h⟩ := h
  have hread := returns_requireStored_bind hs hrow h
  simp only [returns_lift_bind, returns_assert_bind, returns_checked_bind,
    returns_saveAndAdvance_bind, returns_modify_bind, returns_pure] at hread
  obtain ⟨fence, -, rfl, n, hn, _, -, -, rfl, rfl⟩ := hread
  have hstep := transition_ok hn
  refine Effect.claim hrow hnew ⟨rfl, rfl⟩ hstep ?_
  cases hstep.step with
  | beginFill _ _ digest_eq =>
    have hdigest : requireDigest input.idempotencyKey "settlementAttemptId" = .ok _ :=
      requireDigest_of_isHex32 hhex
    rw [hdigest] at digest_eq
    cases digest_eq
    rfl

/-- An attempt of the table that a request names, with the same binding. -/
structure Prior (db : Database) (input : AttemptBinding) (prior : AttemptRow) : Prop where
  mem : prior ∈ db.attempts
  key : prior.idempotencyKey = input.idempotencyKey
  binds : prior.Binds input

/-- What an answered `begin` has done. -/
inductive Begun (Q : Option ReservationState → ReservationState → Prop) (db : Database)
    (input : AttemptBinding)
    (t : Database) : Answer → Prop where
  | replayed {prior : AttemptRow} {outcome : AttemptOutcome} (prior_eq : Prior db input prior)
      (completed : prior.status = .completed) (outcome_eq : prior.outcome = some outcome)
      (same : t = db) : Begun Q db input t (.replay outcome)
  | interrupted {prior : AttemptRow} {r : StoredReservation} (prior_eq : Prior db input prior)
      (pending : prior.status = .pending) (effect : Effect Q db t)
      (result : t = (db.write r).settle input.idempotencyKey interruptedOutcome) :
      Begun Q db input t (.replay interruptedOutcome)
  | claimed {r : StoredReservation}
      (unclaimed : ∀ a ∈ db.attempts, a.idempotencyKey ≠ input.idempotencyKey)
      (effect : Effect Q db t) : Begun Q db input t (.claimed r)

theorem claimAttempt_answer {answer : Answer} (h : Returns (claimAttempt input) db answer t) :
    ∃ r, answer = .claimed r := by
  simp only [claimAttempt, returns_reservationRow_bind, returns_expect_bind, requireStoredRecord,
    returns_lift_bind, returns_assert_bind, returns_checked_bind, returns_saveAndAdvance_bind,
    returns_modify_bind, returns_pure] at h
  obtain ⟨_, -, _, -, _, -, -, _, -, _, -, -, rfl, -⟩ := h
  exact ⟨_, rfl⟩

theorem Sound.pending_of {prior : AttemptRow} (hs : Sound db) (hmem : prior ∈ db.attempts)
    (h : ∀ outcome, prior.status = .completed → prior.outcome = some outcome → False) :
    prior.status = .pending := by
  cases hstatus : prior.status with
  | pending => rfl
  | completed =>
    obtain ⟨outcome, houtcome⟩ := Option.isSome_iff_exists.mp (hs.outcome prior hmem hstatus)
    exact (h outcome hstatus houtcome).elim

theorem returns_beginAttempt {answer : Answer} (hs : Sound db)
    (h : Returns (beginAttempt body) db answer t) :
    ∃ input, requireAttempt body = .ok input ∧ Begun Q db input t answer := by
  simp only [beginAttempt, returns_lift_bind, returns_attemptRow_bind] at h
  obtain ⟨input, hinput, h⟩ := h
  refine ⟨input, hinput, ?_⟩
  cases hfind : db.attempts.find? fun row => row.idempotencyKey = input.idempotencyKey with
  | none =>
    rw [hfind] at h
    have hnew := find_key_none hfind
    obtain ⟨r, rfl⟩ := claimAttempt_answer h
    exact Begun.claimed hnew (returns_claimAttempt hs (requireAttempt_ok hinput) hnew h)
  | some prior =>
    rw [hfind] at h
    obtain ⟨hmem, hkey⟩ := find_key hfind
    simp only [returns_assert_bind] at h
    obtain ⟨hbinds, h⟩ := h
    split at h
    · rename_i outcome hstatus houtcome
      obtain ⟨rfl, rfl⟩ := returns_pure.mp h
      exact Begun.replayed ⟨hmem, hkey, hbinds⟩ hstatus houtcome rfl
    · rename_i hother
      have hpending := hs.pending_of hmem hother
      rw [← hkey, ← hbinds.1] at h
      obtain ⟨r, u, heffect, hu, hk⟩ := returns_interruptAttempt_bind (Q := Q) hs hmem hpending h
      obtain ⟨rfl, rfl⟩ := returns_pure.mp hk
      exact Begun.interrupted ⟨hmem, hkey, hbinds⟩ hpending heffect (hkey ▸ hu)

/-- What an answered `complete` has done. -/
inductive Completed (Q : Option ReservationState → ReservationState → Prop) (db : Database)
    (input : AttemptBinding)
    (t : Database) : Answer → Prop where
  | replayed {prior : AttemptRow} {outcome : AttemptOutcome} (prior_eq : Prior db input prior)
      (completed : prior.status = .completed) (outcome_eq : prior.outcome = some outcome)
      (same : t = db) : Completed Q db input t (.replay outcome)
  | completed {prior : AttemptRow} {outcome : AttemptOutcome} {r : StoredReservation}
      (prior_eq : Prior db input prior) (pending : prior.status = .pending)
      (effect : Effect Q db t)
      (result : t = (db.write r).settle input.idempotencyKey outcome) :
      Completed Q db input t (.completed outcome r)

theorem returns_completeAttempt {answer : Answer} (hs : Sound db)
    (h : Returns (completeAttempt body) db answer t) :
    ∃ input, requireAttempt body = .ok input ∧ Completed Q db input t answer := by
  simp only [completeAttempt, returns_lift_bind, returns_attemptRow_bind, returns_expect_bind,
    returns_assert_bind] at h
  obtain ⟨input, hinput, reported, -, prior, hfind, hbinds, h⟩ := h
  obtain ⟨hmem, hkey⟩ := find_key hfind
  refine ⟨input, hinput, ?_⟩
  split at h
  · rename_i outcome hstatus houtcome
    obtain ⟨rfl, rfl⟩ := returns_pure.mp h
    exact Completed.replayed ⟨hmem, hkey, hbinds⟩ hstatus houtcome rfl
  · rename_i hother
    have hpending := hs.pending_of hmem hother
    obtain ⟨current, hstored, hfilling, hattempt, h⟩ := returns_fillingRecord_bind hs h
    simp only [returns_lift_bind, returns_checked_bind] at h
    obtain ⟨outcome, -, n, hn, h⟩ := h
    have hk := returns_finishAttempt_bind h
    obtain ⟨rfl, rfl⟩ := returns_pure.mp hk
    rw [← hbinds.1] at hstored
    rw [← hkey] at hattempt ⊢
    refine Completed.completed ⟨hmem, hkey, hbinds⟩ hpending ?_ (by rw [hkey])
    exact Effect.finish hstored hmem hpending hfilling hattempt (transition_ok hn)

/-- Recovery finishes one attempt after the other; the others stay pending meanwhile. -/
theorem returns_recoverAttempts {time : Int} {rows : List AttemptRow} :
    ∀ {db : Database} {items items' : List Recovered}, Sound db →
      (∀ p ∈ rows, p ∈ db.attempts ∧ p.status = .pending) →
      (rows.map AttemptRow.idempotencyKey).Nodup →
      Returns (rows.foldlM (recoverAttempt time) items) db items' t → Effects Q db t := by
  induction rows with
  | nil =>
    intro db items items' _ _ _ h
    obtain ⟨-, rfl⟩ := returns_foldlM_nil.mp h
    exact Relation.ReflTransGen.refl
  | cons p rows ih =>
    intro db items items' hs hrows hnodup h
    obtain ⟨items1, u, hp, hrest⟩ := returns_foldlM_cons.mp h
    obtain ⟨hmem, hpending⟩ := hrows p List.mem_cons_self
    obtain ⟨hnotin, hnodup⟩ := List.nodup_cons.mp hnodup
    obtain ⟨r, u', heffect, hu, hk⟩ := returns_interruptAttempt_bind (Q := Q) hs hmem hpending hp
    obtain ⟨-, rfl⟩ := returns_pure.mp hk
    refine Relation.ReflTransGen.head heffect (ih (hs.effect heffect) ?_ hnodup hrest)
    intro p' hp'
    obtain ⟨hmem', hpending'⟩ := hrows p' (List.mem_cons_of_mem _ hp')
    refine ⟨?_, hpending'⟩
    rw [hu]
    refine mem_settle.mpr (Or.inl ⟨hmem', ?_⟩)
    intro hkey
    exact hnotin (List.mem_map.mpr ⟨p', hp', hkey⟩)

theorem mem_pendingAttempts {a : AttemptRow} :
    a ∈ pendingAttempts db ↔ a ∈ db.attempts ∧ a.status = .pending := by
  unfold pendingAttempts
  rw [List.mem_insertionSort, List.mem_filter, decide_eq_true_eq]

theorem nodup_pendingAttempts (hs : Sound db) :
    ((pendingAttempts db).map AttemptRow.idempotencyKey).Nodup := by
  unfold pendingAttempts
  rw [((List.perm_insertionSort _ _).map AttemptRow.idempotencyKey).nodup_iff]
  exact hs.keys.sublist (List.filter_sublist.map _)

theorem returns_recoverPendingAttempts {answer : Answer} (hs : Sound db)
    (h : Returns (recoverPendingAttempts body) db answer t) : Effects Q db t := by
  simp only [recoverPendingAttempts, pendingAttemptRows, returns_lift_bind, bind_assoc, pure_bind,
    returns_get_bind] at h
  obtain ⟨time, -, h⟩ := h
  obtain ⟨items, u, hloop, hrest⟩ := returns_bind.mp h
  obtain ⟨-, rfl⟩ := returns_pure.mp hrest
  exact returns_recoverAttempts hs (fun p hp => mem_pendingAttempts.mp hp)
    (nodup_pendingAttempts hs) hloop

/-! ## Commits -/

/-- A version that the first loop of a commit lets pass, over the tables before the commit. -/
structure Admissible (Q : Option ReservationState → ReservationState → Prop) (db : Database)
    (highWater : Int) (r : StoredReservation) : Prop where
  valid : assertReservation r.reservation = .ok ()
  normal : Normal r
  version : (db.records r.reservation.reservationId = none ∧ Created r.reservation ∧
      r.reservation.fence = highWater + 1 ∧ Q none r.reservation.state) ∨
    ∃ current, db.records r.reservation.reservationId = some current ∧
      Revised current.reservation r.reservation ∧
      Q (some current.reservation.state) r.reservation.state

inductive Plan (Q : Option ReservationState → ReservationState → Prop) (db : Database) :
    List Text → Int → List StoredReservation → Prop where
  | nil {seen : List Text} {highWater : Int} : Plan Q db seen highWater []
  | cons {seen : List Text} {highWater : Int} {r : StoredReservation}
      {rs : List StoredReservation} (new : r.reservation.reservationId ∉ seen)
      (admissible : Admissible Q db highWater r)
      (rest : Plan Q db (r.reservation.reservationId :: seen)
        (raised highWater r.reservation.fence) rs) :
      Plan Q db seen highWater (r :: rs)

/-- The version that a mutation asks for may be stored. -/
def Allowed (Q : Option ReservationState → ReservationState → Prop) (db : Database) (mutation : Json) :
    Prop :=
  ∀ next, decodeStoredMakerReservation ((mutation.get? "record").getD .null) = .ok next →
    Q ((db.records next.reservation.reservationId).map fun r => r.reservation.state)
      next.reservation.state

instance {Q : Option ReservationState → ReservationState → Prop} [DecidableRel Q] (db : Database)
    (mutation : Json) : Decidable (Allowed Q db mutation) :=
  match hnext : decodeStoredMakerReservation ((mutation.get? "record").getD .null) with
  | .error e => .isTrue fun next h => by
    rw [hnext] at h
    cases h
  | .ok next =>
    decidable_of_iff
      (Q ((db.records next.reservation.reservationId).map fun r => r.reservation.state)
        next.reservation.state) (by
        constructor
        · intro hQ next' h
          rw [hnext] at h
          cases h
          exact hQ
        · intro h
          exact h next hnext)

theorem returns_prepareMutation {acc acc' : Prepared} {mutation : Json} (hs : Sound db)
    (hQ : Allowed Q db mutation) (h : Returns (prepareMutation acc mutation) db acc' t) :
    t = db ∧ ∃ next, next.reservation.reservationId ∉ acc.seen ∧
      Admissible Q db acc.validationHighWater next ∧
      acc' = ⟨next.reservation.reservationId :: acc.seen,
        raised acc.validationHighWater next.reservation.fence, acc.records ++ [next]⟩ := by
  unfold prepareMutation at h
  obtain ⟨next, v, hread, hbody⟩ := returns_bind.mp h
  obtain ⟨hnext, hv⟩ := returns_checked.mp hread
  rw [hv] at hbody
  simp only [returns_assert_bind, returns_reservationRow_bind] at hbody
  obtain ⟨hnew, hbody⟩ := hbody
  obtain ⟨hvalid, -, hnormal⟩ := decode_ok hnext
  have hallowed := hQ next hnext
  obtain ⟨current, u, hcurrent, hchecks⟩ := returns_bind.mp hbody
  simp only [returns_lift_bind, returns_checked_bind, returns_assert_bind, returns_pure] at hchecks
  obtain ⟨fence, -, _, hmutation, hfence, rfl, rfl⟩ := hchecks
  cases hrow : db.records next.reservation.reservationId with
  | none =>
    rw [hrow] at hcurrent hallowed
    obtain ⟨rfl, rfl⟩ := returns_pure.mp hcurrent
    obtain ⟨-, -, hcreated⟩ := mutation_create_ok hmutation
    have hfence' : next.reservation.fence = acc.validationHighWater + 1 := by
      simpa using hfence
    exact ⟨rfl, next, hnew, ⟨hvalid, hnormal, Or.inl ⟨hrow, hcreated, hfence', hallowed⟩⟩, rfl⟩
  | some row =>
    rw [hrow] at hcurrent hallowed
    rw [currentRecord, map_eq_pure_bind] at hcurrent
    have hread := returns_requireStored_bind hs hrow hcurrent
    obtain ⟨rfl, rfl⟩ := returns_pure.mp hread
    obtain ⟨-, -, hrevised⟩ := mutation_revise_ok hmutation
    exact ⟨rfl, next, hnew, ⟨hvalid, hnormal, Or.inr ⟨row, hrow, hrevised, hallowed⟩⟩, rfl⟩

theorem returns_prepareMutations {mutations : List Json} (hs : Sound db)
    (hQ : ∀ mutation ∈ mutations, Allowed Q db mutation) :
    ∀ {acc acc' : Prepared}, Returns (mutations.foldlM prepareMutation acc) db acc' t →
      t = db ∧ ∃ rs, acc'.records = acc.records ++ rs ∧
        Plan Q db acc.seen acc.validationHighWater rs := by
  induction mutations with
  | nil =>
    intro acc acc' h
    obtain ⟨rfl, rfl⟩ := returns_foldlM_nil.mp h
    exact ⟨rfl, [], by rw [List.append_nil], Plan.nil⟩
  | cons mutation mutations ih =>
    intro acc acc' h
    obtain ⟨acc1, u, hmutation, hrest⟩ := returns_foldlM_cons.mp h
    obtain ⟨rfl, next, hnew, hadmissible, rfl⟩ :=
      returns_prepareMutation hs (hQ mutation List.mem_cons_self) hmutation
    obtain ⟨rfl, rs, hrecords, hplan⟩ := ih (fun m hm => hQ m (List.mem_cons_of_mem _ hm)) hrest
    refine ⟨rfl, next :: rs, ?_, Plan.cons hnew hadmissible hplan⟩
    rw [hrecords, List.append_assoc]
    rfl

/-- The second loop of a commit stores the planned versions; the tables `db` are those before
the commit, and the reservations outside `seen` still have their versions of then. -/
theorem returns_writeRecords {rs : List StoredReservation} :
    ∀ {now : Database} {seen : List Text} {row row' : MetadataRow},
      Plan Q db seen row.highWater rs → now.metadata = some row →
      (∀ id ∉ seen, now.records id = db.records id) →
      Returns (rs.foldlM writeRecord row) now row' t → Effects Q now t := by
  induction rs with
  | nil =>
    intro now seen row row' _ _ _ h
    obtain ⟨-, rfl⟩ := returns_foldlM_nil.mp h
    exact Relation.ReflTransGen.refl
  | cons r rs ih =>
    intro now seen row row' hplan hmetadata hsame h
    obtain ⟨row1, u, hr, hrest⟩ := returns_foldlM_cons.mp h
    cases hplan with
    | cons hnew hadmissible hplan =>
      simp only [writeRecord, saveRecord, advanceMetadata, returns_modify_bind, returns_pure] at hr
      obtain ⟨rfl, rfl⟩ := hr
      have hwrite : ({ now.save r with
          metadata := (now.save r).metadata.map fun _ => row.next r.reservation.fence } :
            Database) = now.write r := by
        simp only [Database.write, Database.save, hmetadata, Option.map_some]
      rw [hwrite] at hrest
      have hhigh : now.highWater = row.highWater := by
        simp [Database.highWater, hmetadata]
      have heffect : Effect Q now (now.write r) := by
        rcases hadmissible.version with ⟨hnone, hcreated, hfence, hallowed⟩ |
            ⟨current, hstored, hrevised, hallowed⟩
        · apply Effect.create _ _ hcreated hallowed _ hadmissible.valid hadmissible.normal
          · rw [hmetadata]
            rfl
          · rw [hsame _ hnew, hnone]
          · rw [hhigh, hfence]
        · apply Effect.revise _ hrevised hallowed hadmissible.valid hadmissible.normal
          rw [hsame _ hnew, hstored]
      refine Relation.ReflTransGen.head heffect (ih hplan ?_ ?_ hrest)
      · simp [Database.write, hmetadata]
      · intro id hid
        rw [List.mem_cons, not_or] at hid
        rw [records_write_of_ne hid.1, hsame id hid.2]

/-- A commit stores only what `Q` allows; what the other requests store is not asked. -/
def Request.Allowed (Q : Option ReservationState → ReservationState → Prop) (db : Database) :
    Request → Prop
  | .commit body =>
    ∀ input, commitInput body = .ok input → ∀ mutation ∈ input.mutations,
      Reservation.Allowed Q db mutation
  | .begin _ | .complete _ | .recover _ => True

instance {Q : Option ReservationState → ReservationState → Prop} [DecidableRel Q] (db : Database)
    (r : Request) : Decidable (r.Allowed Q db) :=
  match r with
  | .commit body =>
    match hinput : commitInput body with
    | .error e => .isTrue fun input h => by
      rw [hinput] at h
      cases h
    | .ok input =>
      decidable_of_iff (∀ mutation ∈ input.mutations, Reservation.Allowed Q db mutation) (by
        constructor
        · intro hall input' h
          rw [hinput] at h
          cases h
          exact hall
        · intro h
          exact h input hinput)
  | .begin _ | .complete _ | .recover _ => .isTrue trivial

theorem returns_commit {answer : Answer} (hs : Sound db) (hQ : (Request.commit body).Allowed Q db)
    (h : Returns (commit body) db answer t) : Effects Q db t := by
  simp only [commit, returns_lift_bind, returns_metadata_bind, returns_assert_bind] at h
  obtain ⟨input, hinput, row, hrow, -, -, h⟩ := h
  obtain ⟨prepared, u, hprepare, h⟩ := returns_bind.mp h
  obtain ⟨hu, rs, hrecords, hplan⟩ := returns_prepareMutations hs (hQ input hinput) hprepare
  obtain ⟨row', v, hwrite, hanswer⟩ := returns_bind.mp h
  obtain ⟨-, rfl⟩ := returns_pure.mp hanswer
  rw [hu, hrecords, List.nil_append] at hwrite
  exact returns_writeRecords hplan hrow (fun _ _ => rfl) hwrite

/-! ## Requests and runs -/

theorem returns_execute {r : Request} {answer : Answer} (hs : Sound db) (hQ : r.Allowed Q db)
    (h : Returns (execute r) db answer t) : Effects Q db t := by
  cases r with
  | commit body => exact returns_commit hs hQ h
  | begin body =>
    obtain ⟨input, -, hbegun⟩ := returns_beginAttempt hs h
    cases hbegun with
    | replayed _ _ _ same =>
      rw [same]
    | interrupted _ _ effect _ | claimed _ effect => exact Relation.ReflTransGen.single effect
  | complete body =>
    obtain ⟨input, -, hcompleted⟩ := returns_completeAttempt hs h
    cases hcompleted with
    | replayed _ _ _ same =>
      rw [same]
    | completed _ _ effect _ => exact Relation.ReflTransGen.single effect
  | recover body => exact returns_recoverPendingAttempts hs h

end Requests

/-- A step whose commit, if it is one, stores only what `Q` allows. -/
def Step.Allowed (Q : Option ReservationState → ReservationState → Prop) (db : Database) : Step → Prop
  | .restart => True
  | .request r _ => r.Allowed Q db

instance {Q : Option ReservationState → ReservationState → Prop} [DecidableRel Q] (db : Database)
    (s : Step) : Decidable (s.Allowed Q db) :=
  match s with
  | .restart => .isTrue trivial
  | .request r _ => inferInstanceAs (Decidable (r.Allowed Q db))

section Runs

variable {Q : Option ReservationState → ReservationState → Prop} {I : Database → Prop}

theorem step_effects {db : Database} {s : Step} (hs : Sound db) (hQ : s.Allowed Q db) :
    step db s = construct db ∨ Effects Q db (step db s) := by
  cases s with
  | restart => exact Or.inl rfl
  | request r storageFails =>
    refine Or.inr ?_
    cases storageFails with
    | true => exact Relation.ReflTransGen.refl
    | false =>
      simp only [step, Bool.false_eq_true, if_false]
      cases hr : (execute r).run db with
      | error e => exact Relation.ReflTransGen.refl
      | ok p => exact returns_execute hs hQ hr

theorem sound_empty : Sound Database.empty := by
  refine ⟨?_, ?_, List.nodup_nil, ?_⟩
  · intro id r h
    cases h
  · intro id r h
    cases h
  · intro a ha
    cases ha

theorem Sound.construct {db : Database} (h : Sound db) : Sound (construct db) :=
  ⟨h.key, h.normal, h.keys, h.outcome⟩

/-- What the construction of the object and every allowed effect on sound tables keep, every run
with allowed steps keeps. -/
theorem run_keeps (hconstruct : ∀ db, I db → I (construct db))
    (heffect : ∀ db db', Sound db → Effect Q db db' → I db → I db') {db : Database}
    {steps : List Step} (hQ : Along step (fun db s => s.Allowed Q db) db steps) (hs : Sound db)
    (hdb : I db) : Sound (run step db steps) ∧ I (run step db steps) := by
  apply run_invariant_along (I := fun db => Sound db ∧ I db) _ hQ ⟨hs, hdb⟩
  rintro db s hallowed ⟨hs, hdb⟩
  rcases step_effects hs hallowed with heq | heffects
  · rw [heq]
    exact ⟨hs.construct, hconstruct db hdb⟩
  · apply Effects.keeps (I := fun db => Sound db ∧ I db) _ heffects ⟨hs, hdb⟩
    rintro db db' h ⟨hs, hdb⟩
    exact ⟨hs.effect h, heffect db db' hs h hdb⟩

/-- Without a condition on the commits, every run is allowed. -/
theorem along_allowed (db : Database) (steps : List Step) :
    Along step (fun db s => s.Allowed (fun _ _ => True) db) db steps := by
  induction steps generalizing db with
  | nil => trivial
  | cons s steps ih =>
    refine ⟨?_, ih (step db s)⟩
    cases s with
    | restart => trivial
    | request r _ =>
      cases r with
      | commit body =>
        intro input _ mutation _ next _
        trivial
      | begin | complete | recover => trivial

theorem sound_run {db : Database} (hs : Sound db) (steps : List Step) : Sound (run step db steps) :=
  (run_keeps (Q := fun _ _ => True) (I := fun _ => True) (fun _ _ => trivial)
    (fun _ _ _ _ _ => trivial) (along_allowed db steps) hs trivial).1

end Runs

end App20.Reservation
