import App20.Lib.Journal
import App20.Lib.Table
import App20.Maker.Canonical
import App20.Reservation.Codec

/-!
# The books of a maker node

The durable store of a maker node: its reservations and its v3 locks, the form in which they are
written and read back, and the two kinds of transactions.
-/

namespace App20.Maker

open App20.Lib App20.Lib.Exec App20.Domain
open App20.Reservation (MakerReservation ReservationState ReservationCommand StoredReservation
  SignedQuote ReconciliationBinding AuthorityQuarantine TerminalReconciliation
  canonicalMakerReservation transitionMakerReservation decodeStoredMakerReservation)

/-! ## Records as they are written -/

def serializeQuote (q : SignedQuote) : Except MakerError SignedQuote := do
  let signedCanonical ← requireText q.signedCanonical "signedCanonical"
  let signature ← requireText q.signature "signature"
  let quoteDigest ← requireHex32 q.quoteDigest "quoteDigest"
  return ⟨signedCanonical, signature, quoteDigest⟩

def serializeBinding (label : String) (b : ReconciliationBinding) :
    Except MakerError ReconciliationBinding := do
  let attemptId ← requireText b.attemptId (label ++ " attemptId")
  let authorityDigest ← requireHex32 b.authorityDigest (label ++ " authorityDigest")
  let authorityRevision ← requireTimestamp b.authorityRevision (label ++ " authorityRevision")
  return { b with attemptId, authorityDigest, authorityRevision }

def serializeQuarantine (q : AuthorityQuarantine) : Except MakerError AuthorityQuarantine := do
  let binding ← serializeBinding "authority quarantine" q.binding
  let quarantinedAt ← requireTimestamp q.quarantinedAt "authority quarantine quarantinedAt"
  return { q with binding, quarantinedAt }

def serializeTerminal (t : TerminalReconciliation) : Except MakerError TerminalReconciliation := do
  let binding ← serializeBinding "terminal reconciliation" t.binding
  let reconciledAt ← requireTimestamp t.reconciledAt "terminal reconciliation reconciledAt"
  return ⟨binding, reconciledAt⟩

def lowerText (label : String) (value : Text) : Except MakerError Text := do
  return toLowerCase (← requireText value label)

def serializeStored (r : StoredReservation) : Except MakerError StoredReservation := do
  let _ ← ofProtocol (canonicalMakerReservation r.reservation)
  let nonce ← requireHex32 r.nonce "nonce"
  let solverId ← requireText r.solverId "solverId"
  let solverKey ← requireText r.solverKey "solverKey"
  let pricingProvenance ← requireText r.pricingProvenance "pricingProvenance"
  let quote ← optionally serializeQuote r.quote
  let settlementDealId ← optionally (lowerText "settlementDealId") r.settlementDealId
  let settlementDeadline ←
    optionally (requireTimestamp · "settlementDeadline") r.settlementDeadline
  let settlementTicketAddress ←
    optionally (lowerText "settlementTicketAddress") r.settlementTicketAddress
  let authorityQuarantine ← optionally serializeQuarantine r.authorityQuarantine
  let terminalReconciliation ← optionally serializeTerminal r.terminalReconciliation
  return { r with
    nonce, solverId, solverKey, pricingProvenance, quote, settlementDealId, settlementDeadline,
    settlementTicketAddress, authorityQuarantine, terminalReconciliation }

def deserializeStored (r : StoredReservation) : Except MakerError StoredReservation :=
  ofProtocol (decodeStoredMakerReservation r.encode)

/-! ## The store -/

def recordKey (r : StoredReservation) : Text := r.reservation.reservationId

abbrev Records := Table recordKey
abbrev Locks := Table StoredLock.lockId

/-- What a snapshot holds. `made` lists the reservations that were ever made, which the code does
not keep. -/
structure Books where
  records : Records
  locks : Locks
  sequence : Int
  made : List Text

def Books.empty : Books := ⟨.empty, .empty, 0, []⟩

def cloneRecords (records : Records) : Except MakerError Records :=
  records.mapM fun r => do deserializeStored (← serializeStored r)

/-- `serializeStoredLock` and `deserializeStoredLock` both put a lock in its canonical form. -/
def cloneLocks (locks : Locks) : Except MakerError Locks :=
  locks.mapM fun r => do canonicalStoredLock (← canonicalStoredLock r)

namespace Books

def withRecords (b : Books) : Except MakerError Books := do
  return { b with records := ← cloneRecords b.records }

def withLocks (b : Books) : Except MakerError Books := do
  return { b with locks := ← cloneLocks b.locks }

/-- The payload of a snapshot. -/
def write (b : Books) : Except MakerError Books := do
  let records ← b.records.mapM serializeStored
  let locks ← b.locks.mapM canonicalStoredLock
  return { b with records, locks }

/-- What `#load` reads from a snapshot. -/
def read (b : Books) : Except MakerError Books := do
  let records ← b.records.mapM deserializeStored
  let locks ← b.locks.mapM canonicalStoredLock
  return { b with records, locks }

end Books

/-- A program on a draft. -/
abbrev BooksM := Exec MakerError Books

/-- After the changes the other table is cloned as well, and the snapshot gets the next number. -/
def committing {α : Type} (clone : Books → Except MakerError Books) (m : BooksM α) : BooksM α := do
  let a ← m
  let b ← get
  let b ← lift (clone b)
  set { b with sequence := b.sequence + 1 }
  return a

def transaction {α : Type} (m : BooksM α) (append : Append) (j : Journal Books) :
    Except (Option MakerError) α × Journal Books :=
  j.transact Books.withRecords Books.write (committing Books.withLocks m) append

def lockTransaction {α : Type} (m : BooksM α) (append : Append) (j : Journal Books) :
    Except (Option MakerError) α × Journal Books :=
  j.transact Books.withLocks Books.write (committing Books.withRecords m) append

/-! ## Capacity -/

def activeState (s : ReservationState) : Bool := s = .reserved ∨ s = .selected ∨ s = .filling

def capacityLockedState (s : ReservationState) : Bool := activeState s || s = .quarantined

def quarantinedLockCapacityGraceSeconds : Int := 24 * 60 * 60

def lockReservesCapacity (record : StoredLock) (now : Int) : Bool :=
  match record.state with
  | .locking | .settling | .reconcilePending | .settlementUnknown => true
  | .quarantined => now < record.expiry + quarantinedLockCapacityGraceSeconds
  | .opened | .taken | .expired | .settled => false

/-! ## Pruning -/

def pruneRecord (now : Int) (r : StoredReservation) : Except MakerError StoredReservation := do
  if activeState r.reservation.state = false ∨ now < r.reservation.expiresAt then
    return r
  else
    let fence := r.reservation.fence
    let reservation ← ofProtocol (transitionMakerReservation r.reservation
      (if r.reservation.state = .reserved then .expire fence now
        else .quarantine fence now
          "selected reservation expired with unknown chain outcome".toList))
    return { r with reservation }

def pruneDraft (now : Int) : BooksM Unit := do
  let b ← get
  let records ← lift (b.records.mapM (pruneRecord now))
  set { b with records }

def putRecord (r : StoredReservation) : BooksM Unit :=
  modify fun b => { b with records := b.records.put r }

/-! ## What a clone is -/

variable {α : Type} {label : String} {r c : StoredReservation}

theorem ofProtocol_ok {x : Except String α} {a : α} (h : ofProtocol x = .ok a) : x = .ok a := by
  cases x with
  | error e => cases h
  | ok b =>
    cases h
    rfl

theorem serializeBinding_ok {b c : ReconciliationBinding} (h : serializeBinding label b = .ok c) :
    c = b.normal := by
  simp only [serializeBinding, requireTimestamp, bind_ok, pure_ok, requireSafe_ok_iff] at h
  obtain ⟨_, hattempt, _, hdigest, _, ⟨-, -, rfl⟩, rfl⟩ := h
  rw [requireText_ok hattempt, requireHex32_ok hdigest]
  rfl

theorem serializeQuarantine_ok {q c : AuthorityQuarantine} (h : serializeQuarantine q = .ok c) :
    c = { q with binding := q.binding.normal } := by
  simp only [serializeQuarantine, requireTimestamp, bind_ok, pure_ok, requireSafe_ok_iff] at h
  obtain ⟨_, hbinding, _, ⟨-, -, rfl⟩, rfl⟩ := h
  rw [serializeBinding_ok hbinding]

theorem serializeTerminal_ok {t c : TerminalReconciliation} (h : serializeTerminal t = .ok c) :
    c = { t with binding := t.binding.normal } := by
  simp only [serializeTerminal, requireTimestamp, bind_ok, pure_ok, requireSafe_ok_iff] at h
  obtain ⟨_, hbinding, _, ⟨-, -, rfl⟩, rfl⟩ := h
  rw [serializeBinding_ok hbinding]

theorem serializeQuote_ok {q c : SignedQuote} (h : serializeQuote q = .ok c) : c = q.normal := by
  simp only [serializeQuote, bind_ok, pure_ok] at h
  obtain ⟨_, hcanonical, _, hsignature, _, hdigest, rfl⟩ := h
  rw [requireText_ok hcanonical, requireText_ok hsignature, requireHex32_ok hdigest]
  rfl

theorem lowerText_ok {t u : Text} (h : lowerText label t = .ok u) : u = lowered t := by
  simp only [lowerText, bind_ok, pure_ok] at h
  obtain ⟨_, ht, rfl⟩ := h
  rw [requireText_ok ht]
  rfl

/-- What is written differs from the record at most in the spelling of texts. -/
theorem serializeStored_ok {w : StoredReservation} (h : serializeStored r = .ok w) :
    w.reservation = r.reservation ∧ w.normal = r.normal := by
  simp only [serializeStored, bind_ok, pure_ok] at h
  obtain ⟨_, -, _, hnonce, _, hsolverId, _, hsolverKey, _, hprovenance, _, hquote, _, hdeal, _,
    hdeadline, _, hticket, _, hquarantine, _, hterminal, rfl⟩ := h
  refine ⟨rfl, ?_⟩
  rw [requireHex32_ok hnonce, requireText_ok hsolverId, requireText_ok hsolverKey,
    requireText_ok hprovenance, optionally_map (fun _ _ h => serializeQuote_ok h) hquote,
    optionally_map (fun _ _ h => lowerText_ok h) hdeal,
    optionally_map (fun _ _ h => (requireSafe_ok_iff.mp h).2.2) hdeadline,
    optionally_map (fun _ _ h => lowerText_ok h) hticket,
    optionally_map (fun _ _ h => serializeQuarantine_ok h) hquarantine,
    optionally_map (fun _ _ h => serializeTerminal_ok h) hterminal]
  have htwice : ∀ t, toLowerCase (trim (toLowerCase (trim t))) = toLowerCase (trim t) :=
    lowered_lowered
  simp only [StoredReservation.normal, SignedQuote.normal, ReconciliationBinding.normal, lowered,
    Option.map_map, Function.comp_def, trim_trim, Option.map_id', htwice]
  rfl

theorem serializeBinding_again {b c : ReconciliationBinding}
    (h : serializeBinding label b = .ok c) : serializeBinding label b.normal = .ok c := by
  have hc := serializeBinding_ok h
  simp only [serializeBinding, requireTimestamp, bind_ok, pure_ok, requireSafe_ok_iff] at h ⊢
  obtain ⟨_, hattempt, _, hdigest, _, ⟨hleast, hmost, rfl⟩, rfl⟩ := h
  rw [← hc]
  exact ⟨_, requireText_again hattempt, _, requireHex32_again hdigest, _, ⟨hleast, hmost, rfl⟩, rfl⟩

/-- A record that can be written can be written in its normal form. -/
theorem serializeStored_normal {w : StoredReservation} (h : serializeStored r = .ok w) :
    ∃ w', serializeStored r.normal = .ok w' := by
  simp only [serializeStored, bind_ok, pure_ok] at h ⊢
  obtain ⟨_, hcanonical, _, hnonce, _, hsolverId, _, hsolverKey, _, hprovenance, _, hquote, _, hdeal,
    _, hdeadline, _, hticket, _, hquarantine, _, hterminal, -⟩ := h
  have hlowered : ∀ {label : String} {t u : Text}, lowerText label t = .ok u →
      lowerText label (lowered t) = .ok u := by
    intro label t u ht
    have hu := lowerText_ok ht
    simp only [lowerText, bind_ok, pure_ok] at ht ⊢
    obtain ⟨v, hv, rfl⟩ := ht
    obtain ⟨hne, hshort, rfl⟩ := requireText_ok_iff.mp hv
    refine ⟨_, requireText_ok_iff.mpr ⟨?_, ?_, rfl⟩, ?_⟩
    · rw [trim_lowered]
      simpa [lowered, toLowerCase] using hne
    · rw [trim_lowered]
      simpa [lowered, toLowerCase] using hshort
    · rw [trim_lowered, lowered, toLowerCase_toLowerCase]
  have hmap : ∀ {α β : Type} {check : α → Except MakerError β} {f : α → α} {o : Option α}
      {p : Option β}, (∀ x y, check x = .ok y → check (f x) = .ok y) → optionally check o = .ok p →
      optionally check (o.map f) = .ok p := by
    intro α β check f o p hf ho
    rcases optionally_ok_iff.mp ho with ⟨rfl, rfl⟩ | ⟨x, y, rfl, hy, rfl⟩
    · rfl
    · exact optionally_ok_iff.mpr (Or.inr ⟨f x, y, rfl, hf x y hy, rfl⟩)
  refine ⟨_, _, hcanonical, _, requireHex32_ok hnonce ▸ requireHex32_again hnonce, _,
    requireText_ok hsolverId ▸ requireText_again hsolverId, _,
    requireText_ok hsolverKey ▸ requireText_again hsolverKey, _,
    requireText_ok hprovenance ▸ requireText_again hprovenance, _, hmap ?_ hquote, _,
    hmap (fun _ _ => hlowered) hdeal, _, hdeadline, _, hmap (fun _ _ => hlowered) hticket, _,
    hmap ?_ hquarantine, _, hmap ?_ hterminal, rfl⟩
  · intro q c hq
    have hc := serializeQuote_ok hq
    rw [← hc]
    simp only [serializeQuote, bind_ok, pure_ok] at hq ⊢
    obtain ⟨_, hcanonical, _, hsignature, _, hdigest, rfl⟩ := hq
    exact ⟨_, requireText_again hcanonical, _, requireText_again hsignature, _,
      requireHex32_again hdigest, rfl⟩
  · intro q c hq
    simp only [serializeQuarantine, bind_ok, pure_ok] at hq ⊢
    obtain ⟨_, hbinding, hrest⟩ := hq
    exact ⟨_, serializeBinding_again hbinding, hrest⟩
  · intro t c ht
    simp only [serializeTerminal, bind_ok, pure_ok] at ht ⊢
    obtain ⟨_, hbinding, hrest⟩ := ht
    exact ⟨_, serializeBinding_again hbinding, hrest⟩

theorem deserializeStored_ok (h : deserializeStored r = .ok c) :
    c = r.normal ∧ Reservation.assertReservation r.reservation = .ok () ∧ Reservation.Normal c := by
  obtain ⟨hc, hvalid, -, hnormal⟩ := Reservation.decode_encode_ok (ofProtocol_ok h)
  exact ⟨hc, hvalid, hnormal⟩

/-- A draft has every record in its normal form. -/
theorem cloneStored_ok (h : (do deserializeStored (← serializeStored r)) = .ok c) :
    c = r.normal ∧ Reservation.assertReservation r.reservation = .ok () ∧ Reservation.Normal c := by
  obtain ⟨w, hw, hc⟩ := bind_ok.mp h
  obtain ⟨hreservation, hsame⟩ := serializeStored_ok hw
  obtain ⟨hc, hvalid, hnormal⟩ := deserializeStored_ok hc
  exact ⟨hc.trans hsame, hreservation ▸ hvalid, hnormal⟩

theorem recordKey_clone (h : (do deserializeStored (← serializeStored r)) = .ok c) :
    recordKey c = recordKey r := by
  rw [(cloneStored_ok h).1]
  rfl

theorem mem_cloneRecords {t t' : Records} (h : cloneRecords t = .ok t') (hc : c ∈ t'.entries) :
    ∃ r ∈ t.entries, c = r.normal ∧ Reservation.assertReservation r.reservation = .ok () ∧
      Reservation.Normal c := by
  obtain ⟨r, hr, hclone⟩ := Table.mapM_mem (fun _ _ => recordKey_clone) h hc
  exact ⟨r, hr, cloneStored_ok hclone⟩

/-! ## Transactions -/

def CanonicalLocks (locks : Locks) : Prop := ∀ r ∈ locks.entries, canonicalStoredLock r = .ok r

theorem cloneLocks_eq {locks : Locks} (h : CanonicalLocks locks) : cloneLocks locks = .ok locks := by
  apply Table.mapM_eq_self
  intro r hr
  rw [h r hr, ok_bind, h r hr]

theorem withLocks_eq {b : Books} (h : CanonicalLocks b.locks) : b.withLocks = .ok b := by
  rw [Books.withLocks, cloneLocks_eq h]
  rfl

/-- What is committed: the changed draft, with the other table cloned and the next number. -/
theorem returns_committing {clone : Books → Except MakerError Books} {m : BooksM α} {s t : Books}
    {a : α} :
    Returns (committing clone m) s a t ↔ ∃ u v, Returns m s a u ∧ clone u = .ok v ∧
      t = { v with sequence := v.sequence + 1 } := by
  unfold committing
  constructor
  · intro h
    obtain ⟨a', u, hm, h⟩ := returns_bind.mp h
    rw [returns_get_bind] at h
    obtain ⟨v, hv, h⟩ := returns_lift_bind.mp h
    obtain ⟨_, w, hset, h⟩ := returns_bind.mp h
    obtain ⟨rfl, rfl⟩ := returns_pure.mp h
    refine ⟨u, v, hm, hv, ?_⟩
    cases hset
    rfl
  · rintro ⟨u, v, hm, hv, rfl⟩
    refine returns_bind.mpr ⟨a, u, hm, ?_⟩
    rw [returns_get_bind]
    exact returns_lift_bind.mpr ⟨v, hv, rfl⟩

/-- What a transaction has done that is told to be done. -/
theorem transaction_ok {m : BooksM α} {append : Append} {j j' : Journal Books} {a : α}
    (h : transaction m append j = (.ok a, j')) :
    ∃ records u v, cloneRecords j.memory.records = .ok records ∧
      Returns m { j.memory with records } a u ∧ u.withLocks = .ok v ∧
      j'.memory = { v with sequence := v.sequence + 1 } ∧ j'.memory.write = .ok j'.durable ∧
      j.failed = false ∧ j'.failed = false := by
  obtain ⟨next, written, hattempt, rfl⟩ := Journal.transact_ok h
  obtain ⟨hopened, draft, hdraft, hreturns, hwritten⟩ := Journal.attempt_ok hattempt
  obtain ⟨u, v, hbody, hclone, hnext⟩ := returns_committing.mp hreturns
  obtain ⟨records, hrecords, hdraft⟩ := bind_ok.mp hdraft
  cases hdraft
  exact ⟨records, u, v, hrecords, hbody, hclone, hnext, hwritten, hopened, rfl⟩

theorem lockTransaction_ok {m : BooksM α} {append : Append} {j j' : Journal Books} {a : α}
    (h : lockTransaction m append j = (.ok a, j')) :
    ∃ locks u v, cloneLocks j.memory.locks = .ok locks ∧
      Returns m { j.memory with locks } a u ∧ u.withRecords = .ok v ∧
      j'.memory = { v with sequence := v.sequence + 1 } ∧ j'.memory.write = .ok j'.durable ∧
      j.failed = false ∧ j'.failed = false := by
  obtain ⟨next, written, hattempt, rfl⟩ := Journal.transact_ok h
  obtain ⟨hopened, draft, hdraft, hreturns, hwritten⟩ := Journal.attempt_ok hattempt
  obtain ⟨u, v, hbody, hclone, hnext⟩ := returns_committing.mp hreturns
  obtain ⟨locks, hlocks, hdraft⟩ := bind_ok.mp hdraft
  cases hdraft
  exact ⟨locks, u, v, hlocks, hbody, hclone, hnext, hwritten, hopened, rfl⟩

end App20.Maker
