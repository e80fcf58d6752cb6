import App20.Maker.Authorities

/-!
# The way out of quarantine

Whether an authority can free the inventory of a reservation that was attempted and then
quarantined.

* `releases_iff`: it can exactly when the transaction that the chain has settled is in the record,
  apart from numbers that have run out and a store that takes no transaction.
* `never_released`: a crash between the attempt and its answer leaves a record that no message
  frees, whatever the chain says.
-/

namespace App20.Maker

open App20.Lib App20.Lib.Exec App20.Domain App20.Intents
open App20.Reservation (StoredReservation QuarantineReason ReconciliationOutcome maxSafeInteger
  maxU256 canonicalMakerReservation Transitioned)
open Relation (ReflTransGen)

section

variable {config : Config} {powers : Powers} {r c : StoredReservation} {s t : Books}

/-! ## Attempts in a record -/

/-- What a record says of a settlement attempt: there is a quote that was selected; a transaction
is in the spelling of the node, and is there only in a consumed record or one that an authority has
spoken of; none of this is there before; and what was refunded was not attempted. -/
structure Attempted (r : StoredReservation) : Prop where
  quote : r.reservation.settlementAttemptId.isSome = true →
    r.reservation.selectedQuoteDigest.isSome = true
  hash : ∀ h, r.reservation.settlementTransactionHash = some h → ∃ n < starknetFeltLimit, h = hex n
  spoken : r.reservation.settlementTransactionHash.isSome = true →
    r.reservation.state = .consumed ∨ r.authorityQuarantine.isSome = true ∨
      r.terminalReconciliation.isSome = true
  active : ¬ r.reservation.state.Terminal → r.reservation.settlementTransactionHash = none ∧
    r.authorityQuarantine = none ∧ r.terminalReconciliation = none
  refunded : ∀ t, r.terminalReconciliation = some t → t.binding.outcome = .refunded →
    r.reservation.settlementAttemptId = none

theorem attempted_new (h : IsNew r) : Attempted r := by
  obtain ⟨hcreated, hq, ht⟩ := h
  refine ⟨fun hattempt => ?_, fun _ hh => ?_, fun hh => ?_,
    fun _ => ⟨hcreated.settlementTransactionHash, hq, ht⟩, fun _ h => (by cases ht.symm.trans h)⟩
  · rw [hcreated.settlementAttemptId] at hattempt
    cases hattempt
  · rw [hcreated.settlementTransactionHash] at hh
    cases hh
  · rw [hcreated.settlementTransactionHash] at hh
    cases hh

variable {n m : Reservation.MakerReservation} {α : Type} {target : MakerReconciliationTarget}
  {now : Int} {id : Text} {input : AuthorityRequest}

theorem selectedQuoteDigest_isSome (hvalid : Reservation.assertReservation n = .ok ())
    (hstate : n.state = .selected) : n.selectedQuoteDigest.isSome = true := by
  obtain ⟨_, -, hchecked⟩ := bind_ok.mp hvalid
  unfold Reservation.checkState at hchecked
  rw [if_pos (Or.inl hstate)] at hchecked
  obtain ⟨digest, hdigest, -⟩ := bind_ok.mp hchecked
  obtain ⟨hhex, -⟩ := Reservation.requireDigest_ok_iff.mp hdigest
  cases hquote : n.selectedQuoteDigest with
  | some digest => rfl
  | none =>
    rw [hquote] at hhex
    exact absurd hhex (by decide)

/-- A transition keeps the digest of the quote, and begins a fill only where there is one. -/
theorem quote_of_transitioned {command : Reservation.ReservationCommand}
    (h : Transitioned n command m)
    (hn : n.settlementAttemptId.isSome = true → n.selectedQuoteDigest.isSome = true)
    (hm : m.settlementAttemptId.isSome = true) : m.selectedQuoteDigest.isSome = true := by
  have hvalid := h.valid
  cases h.step with
  | select => rfl
  | beginFill hstate _ _ =>
    show n.selectedQuoteDigest.isSome = true
    exact selectedQuoteDigest_isSome hvalid hstate
  | release | consume | expire | quarantine => exact hn hm

theorem requireFelt_hex {value felt : Text} {label : String}
    (h : Reservation.requireFelt value label = .ok felt) :
    ∃ n < starknetFeltLimit, felt = hex n := by
  unfold Reservation.requireFelt at h
  split at h
  · cases h
  · rename_i text htext
    split at h
    · cases h
    · cases h
      obtain ⟨hhex, hlt⟩ := canonicalizeStarknetFelt_spec htext
      exact ⟨_, hlt, hhex⟩

theorem Attempted.change (h : Attempted r) (hchange : Change config powers r c) : Attempted c := by
  cases hchange with
  | respelled hreservation hnormal =>
    have hq : c.authorityQuarantine.isSome = r.authorityQuarantine.isSome := by
      have hq := congrArg (fun r => r.authorityQuarantine.isSome) hnormal
      simpa [StoredReservation.normal] using hq
    have ht : c.terminalReconciliation.isSome = r.terminalReconciliation.isSome := by
      have ht := congrArg (fun r => r.terminalReconciliation.isSome) hnormal
      simpa [StoredReservation.normal] using ht
    refine ⟨?_, ?_, ?_, ?_, ?_⟩ <;> rw [hreservation]
    · exact h.quote
    · exact h.hash
    · rw [hq, ht]
      exact h.spoken
    · intro hstate
      obtain ⟨hhash, hqn, htn⟩ := h.active hstate
      rw [hqn] at hq
      rw [htn] at ht
      exact ⟨hhash, Option.not_isSome_iff_eq_none.mp (by rw [hq]; decide),
        Option.not_isSome_iff_eq_none.mp (by rw [ht]; decide)⟩
    · intro t hct houtcome
      have hmap := congrArg (fun r => r.terminalReconciliation.map (·.binding.outcome)) hnormal
      simp only [StoredReservation.normal, Option.map_map, hct] at hmap
      obtain ⟨t', ht', hsame⟩ := Option.map_eq_some_iff.mp hmap.symm
      exact h.refunded t' ht' (hsame.trans houtcome)
  | @moved command n ht _ =>
    obtain ⟨hhash, hq, hterminal⟩ := h.active ht.active
    have hcases : n.settlementTransactionHash = none ∨
        n.state = .consumed ∧ ∀ hash, n.settlementTransactionHash = some hash →
          ∃ k < starknetFeltLimit, hash = hex k := by
      cases ht.step with
      | consume _ hfelt =>
        refine Or.inr ⟨rfl, fun hash hh => ?_⟩
        cases hh
        exact requireFelt_hex hfelt
      | select | release | beginFill | expire | quarantine => exact Or.inl hhash
    refine ⟨quote_of_transitioned ht h.quote, ?_, ?_, ?_,
      fun _ h => (by cases hterminal.symm.trans h)⟩
    · intro hash hh
      rcases hcases with hnone | ⟨-, hspelled⟩
      · cases hnone.symm.trans hh
      · exact hspelled hash hh
    · intro hh
      rcases hcases with hnone | ⟨hstate, -⟩
      · have hh : n.settlementTransactionHash.isSome = true := hh
        rw [hnone] at hh
        cases hh
      · exact Or.inl hstate
    · intro hstate
      rcases hcases with hnone | ⟨hconsumed, -⟩
      · exact ⟨hnone, hq, hterminal⟩
      · exact absurd (Or.inr (Or.inl hconsumed)) hstate
  | signed | bound => exact ⟨h.quote, h.hash, h.spoken, h.active, h.refunded⟩
  | @quarantined input reason now _ _ _ _ =>
    obtain ⟨hquote, hattempt⟩ : (quarantinedVersion r.reservation reason now).selectedQuoteDigest =
          r.reservation.selectedQuoteDigest ∧
        (quarantinedVersion r.reservation reason now).settlementAttemptId =
          r.reservation.settlementAttemptId := by
      unfold quarantinedVersion
      split <;> exact ⟨rfl, rfl⟩
    have hhash := (quarantinedVersion_kept r.reservation reason now).2
    refine ⟨fun ha => ?_, fun hash hh => h.hash hash (hhash.symm.trans hh),
      fun _ => Or.inr (Or.inl rfl), fun hstate => absurd
        (Or.inr (Or.inr (Or.inr (quarantinedVersion_state r.reservation reason now)))) hstate,
      fun t ht houtcome => hattempt.trans (h.refunded t ht houtcome)⟩
    exact (congrArg Option.isSome hquote).trans
      (h.quote ((congrArg Option.isSome hattempt).symm.trans ha))
  | @reconciled input hash now _ _ _ _ hallowed =>
    obtain ⟨hquote, hattempt⟩ :
        (terminalVersion r.reservation input.outcome now).selectedQuoteDigest =
            r.reservation.selectedQuoteDigest ∧
          (terminalVersion r.reservation input.outcome now).settlementAttemptId =
            r.reservation.settlementAttemptId := by
      unfold terminalVersion
      split <;> split <;> exact ⟨rfl, rfl⟩
    have hhash := (terminalVersion_kept r.reservation input.outcome now).2
    refine ⟨fun ha => ?_, fun hash hh => h.hash hash (hhash.symm.trans hh),
      fun _ => Or.inr (Or.inr rfl),
      fun hstate => absurd (terminalVersion_terminal r.reservation input.outcome now) hstate,
      fun t ht houtcome => hattempt.trans ?_⟩
    · exact (congrArg Option.isSome hquote).trans
        (h.quote ((congrArg Option.isSome hattempt).symm.trans ha))
    · cases ht
      have houtcome : input.outcome = .refunded := houtcome
      simp only [checkOutcome, houtcome, throwIf_ok, Bool.not_eq_false] at hallowed
      simp only [refundAllowed, decide_eq_true_eq] at hallowed
      exact hallowed.2.1

theorem attempted_reached (config : Config) (steps : List Step) :
    (reached config steps).journal.Holds (Books.Each Attempted) :=
  each_reached (fun _ _ _ hchange h => h.change hchange) (fun _ h => attempted_new h) steps

/-! ## Targets -/

theorem exists_target {steps : List Step} (h : Authorised config (Said steps) r)
    (hspoken : r.authorityQuarantine.isSome = true ∨ r.terminalReconciliation.isSome = true) :
    ∃ target, canonicalReconciliationTarget target = .ok target ∧ Named config r target ∧
      selectionFenceForReconciliation r = .ok target.fence := by
  have hcanonical : ∀ {a : AuthorityCall}, Said steps a →
      canonicalReconciliationTarget a.input.target = .ok a.input.target := by
    rintro a ⟨z, -, hcall⟩
    cases z with
    | act op now append =>
      cases op with
      | quarantine raw reason | reconcile raw hash =>
        obtain ⟨input, hinput, rfl⟩ := Option.map_eq_some_iff.mp hcall
        exact canonicalAuthorityRequest_target (toOption_eq_some_iff.mp hinput)
      | _ => cases hcall
    | _ => cases hcall
  cases ht : r.terminalReconciliation with
  | some t =>
    have hnormal : r.normal.terminalReconciliation = some { t with binding := t.binding.normal } := by
      rw [StoredReservation.normal, ht, Option.map_some]
    obtain ⟨input, hsaid, hbinding, hnamed⟩ := h.terminal _ hnormal
    have htarget := hcanonical hsaid
    refine ⟨input.target, htarget, hnamed, ?_⟩
    have hfence : t.binding.selectionFence = input.target.fence :=
      (congrArg Reservation.ReconciliationBinding.selectionFence hbinding).symm
    unfold selectionFenceForReconciliation
    rw [ht, ← hfence]
  | none =>
    rw [ht] at hspoken
    obtain ⟨q, hq⟩ := Option.isSome_iff_exists.mp (hspoken.resolve_right (by decide))
    have hnormal : r.normal.authorityQuarantine = some { q with binding := q.binding.normal } := by
      rw [StoredReservation.normal, hq, Option.map_some]
    obtain ⟨input, hsaid, hbinding, hnamed⟩ := h.quarantine _ hnormal
    have htarget := hcanonical hsaid
    refine ⟨input.target, htarget, hnamed, ?_⟩
    have hfence : q.binding.selectionFence = input.target.fence :=
      (congrArg Reservation.ReconciliationBinding.selectionFence hbinding).symm
    unfold selectionFenceForReconciliation
    rw [ht, hq, ← hfence]

/-- A target that names a record and has its fence passes the comparison. -/
theorem assertReconciliationBinding_named (hdraft : r.normal = r) (h : Named config r target)
    (hfence : selectionFenceForReconciliation r = .ok target.fence) :
    assertReconciliationBinding config (some r) target = .ok r := by
  obtain ⟨-, hfields, hdeal, hdeadline, hticket⟩ := h
  rw [hdraft] at hfields hdeal hticket
  simp only [assertReconciliationBinding, bind_ok, throwIf_ok, not_or, not_not, Bool.not_eq_false]
  exact ⟨(), ⟨hfields, hdeal, hdeadline, hticket⟩, target.fence, hfence, (), rfl, rfl⟩

/-! ## The spelling of felts -/

theorem isLowerHexDigit_of_mem_toDigits {n : Nat} {ch : Char} (h : ch ∈ Nat.toDigits 16 n) :
    isLowerHexDigit ch = true := by
  obtain ⟨d, hd, rfl⟩ := mem_toDigits ch h
  have key : ∀ d : Fin 16, isLowerHexDigit d.val.digitChar = true := by decide
  exact key ⟨d, hd⟩

theorem requireFeltText_hex {n : Nat} (h : n < starknetFeltLimit) (label : String) :
    requireFeltText (hex n) label = .ok (hex n) := by
  have hlength := length_hex_le h
  rw [requireFeltText_ok_iff, trim_hex, toLowerCase_hex]
  refine ⟨requireText_ok_iff.mpr ⟨?_, ?_, (trim_hex n).symm⟩, ?_, ?_, rfl⟩
  · rw [trim_hex]
    exact List.cons_ne_nil _ _
  · rw [trim_hex]
    exact hlength.trans (by decide)
  · exact hlength.trans (by decide)
  · unfold isFeltHex hex
    have hall : (Nat.toDigits 16 n).all isLowerHexDigit = true :=
      List.all_eq_true.mpr fun _ => isLowerHexDigit_of_mem_toDigits
    have hne : 1 ≤ (Nat.toDigits 16 n).length := List.length_pos_iff.mpr (Nat.toDigits_ne_nil)
    have hle : (Nat.toDigits 16 n).length ≤ 64 := by
      simp only [hex, List.length_cons] at hlength
      omega
    simp only [hall, hne, hle, and_self, decide_true, Bool.and_self]

theorem feltValue_hex {n : Nat} (h : n < starknetFeltLimit) : feltValue (hex n) = some n := by
  rw [feltValue, canonicalizeStarknetFelt_hex h, Option.map_some, bigInt_hex]

/-! ## Transactions that are done -/

/-- The store takes a transaction at the time. -/
def Serves (j : Journal Books) (now : Int) : Prop :=
  (transaction (pruneDraft now) .done j).1 = .ok ()

theorem transaction_done {m : BooksM α} {j : Journal Books} {records : Records} {a : α}
    {u v written : Books} (hopen : j.failed = false)
    (hclone : cloneRecords j.memory.records = .ok records)
    (hbody : Returns m { j.memory with records } a u) (hlocks : u.withLocks = .ok v)
    (hwritten : Books.write { v with sequence := v.sequence + 1 } = .ok written) :
    transaction m .done j = (.ok a, ⟨{ v with sequence := v.sequence + 1 }, written, false⟩) := by
  have hcommitted : Returns (committing Books.withLocks m) { j.memory with records } a
      { v with sequence := v.sequence + 1 } := returns_committing.mpr ⟨u, v, hbody, hlocks, rfl⟩
  have hdraft : j.memory.withRecords = .ok { j.memory with records } := by
    rw [Books.withRecords, hclone]
    rfl
  have hrun : (committing Books.withLocks m).run { j.memory with records } =
      .ok (a, { v with sequence := v.sequence + 1 }) := hcommitted
  unfold transaction Journal.transact Journal.attempt
  simp only [hopen, Bool.false_eq_true, if_false, hdraft, hrun, hwritten]

theorem serves_iff {j : Journal Books} :
    Serves j now ↔ j.failed = false ∧ ∃ records pruned locks,
      cloneRecords j.memory.records = .ok records ∧
      records.mapM (pruneRecord now) = .ok pruned ∧ cloneLocks j.memory.locks = .ok locks ∧
      (∃ records', pruned.mapM serializeStored = .ok records') ∧
      ∃ locks', locks.mapM canonicalStoredLock = .ok locks' := by
  constructor
  · intro h
    have h : transaction (pruneDraft now) .done j =
        (.ok (), (transaction (pruneDraft now) .done j).2) := Prod.ext h rfl
    obtain ⟨records, u, v, hclone, hbody, hlocks, hmemory, hwritten, hopen, -⟩ := transaction_ok h
    obtain ⟨pruned, hpruned, rfl⟩ := returns_pruneDraft.mp hbody
    obtain ⟨locks, hcloned, hv⟩ := bind_ok.mp hlocks
    cases hv
    rw [hmemory] at hwritten
    obtain ⟨records', hrecords', hwritten⟩ := bind_ok.mp hwritten
    obtain ⟨locks', hlocks', -⟩ := bind_ok.mp hwritten
    exact ⟨hopen, records, pruned, locks, hclone, hpruned, hcloned, ⟨records', hrecords'⟩,
      locks', hlocks'⟩
  · rintro ⟨hopen, records, pruned, locks, hclone, hpruned, hlocks, ⟨records', hrecords'⟩, locks',
      hlocks'⟩
    have hbody : Returns (pruneDraft now) { j.memory with records } ()
        { j.memory with records := pruned } := returns_pruneDraft.mpr ⟨pruned, hpruned, rfl⟩
    have hv : Books.withLocks { j.memory with records := pruned } =
        .ok { j.memory with records := pruned, locks } := by
      rw [Books.withLocks, hlocks]
      rfl
    have hwritten : Books.write
        { j.memory with records := pruned, locks, sequence := j.memory.sequence + 1 } =
          .ok { j.memory with
            records := records', locks := locks', sequence := j.memory.sequence + 1 } := by
      simp only [Books.write, hrecords', hlocks']
      rfl
    exact congrArg Prod.fst (transaction_done hopen hclone hbody hv hwritten)

/-! ## Releases -/

/-- What the chain says of a settlement: its transaction, or that there was none. -/
inductive ChainOutcome where
  | settled (transaction : Nat)
  | refunded

/-- A message consistent with what the chain says. -/
def ChainOutcome.Agrees (o : ChainOutcome) (outcome : ReconciliationOutcome)
    (hash : Option Text) : Prop :=
  match o with
  | .settled n => outcome = .settled ∧ (namedTransaction .settled hash).bind feltValue = some n
  | .refunded => outcome = .refunded

/-- A message on the reservation is taken in, and the reservation holds no inventory then. -/
def Releases (config : Config) (w : Node) (id : Text) (x : Step) : Prop :=
  (∃ a, accepted config w x = some a ∧ a.reservationId = id) ∧
    ∃ c, (step config w x).journal.memory.records.get? id = some c ∧
      capacityLockedState c.reservation.state = false

/-- The numbers of the record have not run out. -/
structure HasRoom (r : StoredReservation) : Prop where
  fence : r.reservation.fence < maxU256
  quarantine : ∀ q, r.authorityQuarantine = some q → q.binding.authorityRevision < maxSafeInteger
  terminal : ∀ t, r.terminalReconciliation = some t → t.binding.authorityRevision < maxSafeInteger

theorem canonical_consumed (h : canonicalMakerReservation n = .ok m)
    (hstate : n.state = .quarantined) (hquote : n.selectedQuoteDigest.isSome = true)
    (hattempt : n.settlementAttemptId.isSome = true)
    (hhash : n.settlementTransactionHash.isSome = true) (hfence : n.fence < maxU256)
    (hlater : n.updatedAt ≤ now) (hsafe : now ≤ maxSafeInteger) :
    ∃ c, canonicalMakerReservation (terminalVersion n .settled now) = .ok c := by
  have hversion : terminalVersion n .settled now =
      { n with state := .consumed, fence := n.fence + 1, updatedAt := now } := by
    unfold terminalVersion
    dsimp only
    rw [if_neg (by rw [hstate]; decide)]
  rw [hversion]
  obtain ⟨digest, hdigest⟩ := Option.isSome_iff_exists.mp hquote
  obtain ⟨attempt, hattempt⟩ := Option.isSome_iff_exists.mp hattempt
  obtain ⟨hash, hhash⟩ := Option.isSome_iff_exists.mp hhash
  simp only [canonicalMakerReservation, bind_ok, pure_ok, hdigest, hattempt, hhash,
    Reservation.requireOptional, map_ok] at h ⊢
  obtain ⟨_, hvalid, asset, hasset, intent, hintent, maker, hmaker, id, hid, rfq, hrfq, _,
    ⟨quote, hquote, rfl⟩, _, ⟨attempted, hattempted, rfl⟩, _, ⟨felt, hfelt, rfl⟩, reason, hreason,
    -⟩ := h
  refine ⟨_, (), ?_, asset, hasset, intent, hintent, maker, hmaker, id, hid, rfq, hrfq, _,
    ⟨quote, hquote, rfl⟩, _, ⟨attempted, hattempted, rfl⟩, _, ⟨felt, hfelt, rfl⟩, reason, hreason,
    rfl⟩
  obtain ⟨_, hrequired, -⟩ := bind_ok.mp hvalid
  refine bind_ok.mpr ⟨(), ?_, ?_⟩
  · simp only [Reservation.checkRequired, Reservation.requireTimestamp_ok_iff, bind_ok,
      throwIf_ok, not_or, not_le, not_lt] at hrequired ⊢
    obtain ⟨a1, h1, a2, h2, a3, h3, a4, h4, a5, h5, a6, h6, created, hcreated, expires, hexpires,
      updated, ⟨hpos, -, hupdated⟩, _, ⟨hduration, hlifetime, hordered⟩, hpositive, -⟩ := hrequired
    exact ⟨a1, h1, a2, h2, a3, h3, a4, h4, a5, h5, a6, h6, created, hcreated, expires, hexpires,
      now, ⟨by omega, hsafe, rfl⟩, (), ⟨hduration, hlifetime, by omega⟩, by omega, by omega⟩
  · simp only [Reservation.checkState, Option.getD_some, hquote, hattempted, hfelt, reduceCtorEq,
      or_true, or_false, if_true, ok_bind, false_and, throwIf, if_false]

theorem returns_discard_of {m : BooksM α} {a : α} (h : Returns m s a t) :
    Returns (discard m) s () t := returns_bind.mpr ⟨a, t, h, returns_pure.mpr ⟨rfl, rfl⟩⟩

/-- The message that releases a record: a settlement under the last revision. -/
def releasing (target : MakerReconciliationTarget) : AuthorityRequest :=
  ⟨target, "reconcile".toList, '0' :: 'x' :: List.replicate 64 '0', maxSafeInteger, .settled⟩

theorem canonicalAuthorityRequest_releasing {label : String}
    (h : canonicalReconciliationTarget target = .ok target) :
    canonicalAuthorityRequest label (releasing target) = .ok (releasing target) := by
  have htext : requireText "reconcile".toList (label ++ " attemptId") =
      .ok "reconcile".toList := requireText_ok_iff.mpr (by decide)
  have hhex : requireHex32 ('0' :: 'x' :: List.replicate 64 '0') (label ++ " authorityDigest") =
      .ok ('0' :: 'x' :: List.replicate 64 '0') := requireHex32_ok_iff.mpr (by decide)
  have htime : requireTimestamp maxSafeInteger (label ++ " authorityRevision") =
      .ok maxSafeInteger := requireSafe_ok_iff.mpr (by decide)
  simp only [canonicalAuthorityRequest, releasing, h, htext, hhex, htime, ok_bind]
  rfl

/-- On a record that was attempted and quarantined, and has its transaction, the program of the
settlement returns. -/
theorem reconcileTerminal_releasing {n : Nat} {p : Books} {u : Unit}
    (hprune : Returns (pruneDraft now) s u p) (hr : p.records.get? target.reservationId = some r)
    (hdraft : r.normal = r) (hnamed : Named config r target)
    (hfence : selectionFenceForReconciliation r = .ok target.fence) (hattempted : Attempted r)
    (hstate : r.reservation.state = .quarantined)
    (hattempt : r.reservation.settlementAttemptId.isSome = true)
    (hhash : r.reservation.settlementTransactionHash = some (hex n)) (hn : n < starknetFeltLimit)
    (hroom : HasRoom r) (hlater : r.reservation.updatedAt ≤ now) (hsafe : now ≤ maxSafeInteger)
    (hcanonical : canonicalMakerReservation r.reservation = .ok m) :
    (∃ c, canonicalMakerReservation
        (reconciledReservation r (releasing target) now).reservation = .ok c) ∧
      ∃ a, Returns (reconcileTerminal config (releasing target) (some (hex n)) now) s a
        { p with records := p.records.put (reconciledReservation r (releasing target) now) } := by
  have hconsumed : ∃ c, canonicalMakerReservation
      (reconciledReservation r (releasing target) now).reservation = .ok c :=
    canonical_consumed hcanonical hstate (hattempted.quote hattempt) hattempt
      (by rw [hhash]; rfl) hroom.fence hlater hsafe
  refine ⟨hconsumed, ?_⟩
  obtain ⟨c, hc⟩ := hconsumed
  have hbinding := assertReconciliationBinding_named hdraft hnamed hfence
  have hmatches : settledMatches r.reservation (hex n) = true := by
    simp only [settledMatches, hhash, Option.map_some, toLowerCase_hex, hstate, hattempt,
      decide_true, or_true, and_self]
  have hallowed : checkOutcome r .settled (some (hex n)) = .ok () := by
    simp only [checkOutcome, Option.getD_some, requireFeltText_hex hn, ok_bind, hmatches,
      throwIf_ok, Bool.true_eq_false, not_false_eq_true]
  have houtcome : ∀ t, r.terminalReconciliation = some t → t.binding.outcome = .settled := by
    intro t ht
    cases ho : t.binding.outcome with
    | settled => rfl
    | refunded =>
      rw [hattempted.refunded t ht ho] at hattempt
      cases hattempt
  obtain ⟨a, ha⟩ : ∃ a, reconciliationSnapshot (reconciledReservation r (releasing target) now) =
      .ok a := by
    obtain ⟨-, hfields, -, hdeadline, hticket⟩ := hnamed
    rw [hdraft] at hfields hticket
    simp only [targetMatches, decide_eq_true_eq] at hfields
    obtain ⟨-, -, hquote, -⟩ := hfields
    obtain ⟨quote, hquote, -⟩ := Option.map_eq_some_iff.mp hquote
    unfold reconciliationSnapshot reconciledReservation
    rw [hquote, hdeadline, hticket]
    exact ⟨_, rfl⟩
  have hnew : Returns (newTerminal (releasing target) (some (hex n)) now r) p a
      { p with records := p.records.put (reconciledReservation r (releasing target) now) } := by
    unfold newTerminal putRecord
    simp only [returns_lift_bind, returns_assert_bind, returns_modify_bind]
    refine ⟨?_, ?_, (), hallowed, hlater, c, ?_, returns_lift.mpr ⟨ha, rfl⟩⟩
    · cases ht : r.terminalReconciliation with
      | none => simp
      | some t => simp [releasing, houtcome t ht]
    · cases hq : r.authorityQuarantine with
      | none => simp
      | some q =>
        rw [Option.any_some]
        exact fun hle => absurd (of_decide_eq_true hle) (not_le.mpr (hroom.quarantine q hq))
    · exact congrArg (Except.mapError _) hc
  refine ⟨a, ?_⟩
  unfold reconcileTerminal
  refine returns_bind.mpr ⟨u, p, hprune, ?_⟩
  rw [returns_get_bind]
  have hfound : assertReconciliationBinding config
      (p.records.get? (releasing target).target.reservationId) (releasing target).target =
        .ok r := by
    show assertReconciliationBinding config (p.records.get? target.reservationId) target = .ok r
    rw [hr]
    exact hbinding
  refine returns_lift_bind.mpr ⟨r, hfound, ?_⟩
  cases ht : r.terminalReconciliation with
  | none => exact hnew
  | some prior =>
    have hlt : prior.binding.authorityRevision < (releasing target).authorityRevision :=
      hroom.terminal prior ht
    dsimp only
    refine returns_assert_bind.mpr ⟨hlt.le, ?_⟩
    rw [if_neg hlt.ne]
    exact hnew

def reconciling (input : AuthorityRequest) (hash : Option Text) (now : Int) : Step :=
  .act (.reconcile input hash) now .done

/-- The draft that a store which serves makes of a quarantined record. -/
theorem pruned_quarantined {records pruned : Records}
    (hclone : cloneRecords s.records = .ok records)
    (hpruned : records.mapM (pruneRecord now) = .ok pruned) (hr : s.records.get? id = some r)
    (hstate : r.reservation.state = .quarantined) :
    pruned.get? id = some r.normal ∧ ∃ w, serializeStored r = .ok w := by
  obtain ⟨c, hc, hget⟩ := (Table.mapM_ok (fun _ _ => recordKey_clone) hclone id).2 r hr
  obtain ⟨p, hp, hget'⟩ := (Table.mapM_ok (fun _ _ => recordKey_prune) hpruned id).2 c hget
  unfold pruneRecord activeState at hp
  rw [(cloneStored_ok hc).1, show r.normal.reservation.state = _ from hstate] at hp
  cases hp
  obtain ⟨w, hw, -⟩ := bind_ok.mp hc
  exact ⟨hget', w, hw⟩

theorem HasRoom.normal (h : HasRoom r) : HasRoom r.normal := by
  refine ⟨h.fence, fun q hq => ?_, fun t ht => ?_⟩
  · obtain ⟨q', hq', rfl⟩ := Option.map_eq_some_iff.mp hq
    exact h.quarantine q' hq'
  · obtain ⟨t', ht', rfl⟩ := Option.map_eq_some_iff.mp ht
    exact h.terminal t' ht'

theorem HasRoom.of_normal (hfence : r.reservation.fence < maxU256) (hnewer : Newer r.normal input)
    (hsupersedes : Supersedes r.normal input) (hsafe : input.authorityRevision ≤ maxSafeInteger) :
    HasRoom r := by
  refine ⟨hfence, fun q hq => ?_, fun t ht => ?_⟩
  · have hlt := hnewer { q with binding := q.binding.normal } (by
      rw [StoredReservation.normal, hq, Option.map_some])
    exact lt_of_lt_of_le hlt hsafe
  · have hlt := (hsupersedes { t with binding := t.binding.normal } (by
      rw [StoredReservation.normal, ht, Option.map_some])).2
    exact lt_of_lt_of_le hlt hsafe

/-- The written form of a record shows that its fence is a u256. -/
theorem fence_le_of_serialize {w : StoredReservation} (h : serializeStored r = .ok w) :
    r.reservation.fence ≤ maxU256 := by
  obtain ⟨_, hcanonical, -⟩ := bind_ok.mp h
  obtain ⟨hvalid, -⟩ := Reservation.canonical_ok (ofProtocol_ok hcanonical)
  obtain ⟨_, hrequired, -⟩ := bind_ok.mp hvalid
  simp only [Reservation.checkRequired, bind_ok, throwIf_ok, not_or, not_lt] at hrequired
  obtain ⟨_, -, _, -, _, -, _, -, _, -, _, -, _, -, _, -, _, -, _, -, -, hmost⟩ := hrequired
  exact hmost

theorem serializeStored_reconciled {w : StoredReservation} {b : Reservation.TerminalReconciliation}
    (h : serializeStored r = .ok w)
    (hm : canonicalMakerReservation (reconciledReservation r input now).reservation = .ok m)
    (hb : serializeTerminal ⟨input.binding, now⟩ = .ok b) :
    ∃ w', serializeStored (reconciledReservation r input now) = .ok w' := by
  simp only [serializeStored, bind_ok, pure_ok] at h ⊢
  obtain ⟨_, -, _, hnonce, _, hsolverId, _, hsolverKey, _, hprovenance, _, hquote, _, hdeal, _,
    hdeadline, _, hticket, _, hquarantine, -⟩ := h
  exact ⟨_, m, congrArg (Except.mapError _) hm, _, hnonce, _, hsolverId, _, hsolverKey, _,
    hprovenance, _, hquote, _, hdeal, _, hdeadline, _, hticket, _, hquarantine, _,
    optionally_ok_iff.mpr (Or.inr ⟨_, _, rfl, hb, rfl⟩), rfl⟩

theorem serializeTerminal_releasing (htime : requireTimestamp now "now" = .ok now) :
    serializeTerminal ⟨(releasing target).binding, now⟩ =
      .ok ⟨(releasing target).binding, now⟩ := by
  have htext : requireText "reconcile".toList "terminal reconciliation attemptId" =
      .ok "reconcile".toList := requireText_ok_iff.mpr (by decide)
  have hhex : requireHex32 ('0' :: 'x' :: List.replicate 64 '0')
      "terminal reconciliation authorityDigest" =
      .ok ('0' :: 'x' :: List.replicate 64 '0') := requireHex32_ok_iff.mpr (by decide)
  have hrevision : requireTimestamp maxSafeInteger "terminal reconciliation authorityRevision" =
      .ok maxSafeInteger := requireSafe_ok_iff.mpr (by decide)
  have hat : requireTimestamp now "terminal reconciliation reconciledAt" = .ok now :=
    requireSafe_ok_iff.mpr (requireSafe_ok_iff.mp htime)
  have hbinding : serializeBinding "terminal reconciliation" (releasing target).binding =
      .ok (releasing target).binding := by
    simp only [serializeBinding, AuthorityRequest.binding, releasing]
    exact bind_ok.mpr ⟨_, htext, bind_ok.mpr ⟨_, hhex, bind_ok.mpr ⟨_, hrevision, rfl⟩⟩⟩
  simp only [serializeTerminal, hbinding, hat, ok_bind]
  rfl

/-! ## When there is a way out -/

theorem releases_of_recorded {w : Node} {n : Nat} {steps : List Step}
    (hauthorised : Authorised config (Said steps) r) (hattempted : Attempted r)
    (hr : w.journal.memory.records.get? id = some r) (hstate : r.reservation.state = .quarantined)
    (hattempt : r.reservation.settlementAttemptId.isSome = true)
    (hhash : r.reservation.settlementTransactionHash.bind feltValue = some n) (hroom : HasRoom r)
    (hlater : r.reservation.updatedAt ≤ now) (htime : requireTimestamp now "now" = .ok now)
    (hserves : Serves w.journal now) :
    ∃ input hash, (ChainOutcome.settled n).Agrees input.outcome hash ∧
      Releases config w id (reconciling input hash now) := by
  obtain ⟨hash, hrecorded, hvalue⟩ := Option.bind_eq_some_iff.mp hhash
  obtain ⟨k, hk, rfl⟩ := hattempted.hash hash hrecorded
  obtain rfl : k = n := Option.some.inj ((feltValue_hex hk).symm.trans hvalue)
  obtain ⟨hopen, records, pruned, locks, hclone, hpruned, hlocks, ⟨records', hrecords'⟩, locks',
    hlocks'⟩ := serves_iff.mp hserves
  obtain ⟨hget, written, hwritten⟩ := pruned_quarantined hclone hpruned hr hstate
  obtain ⟨m, hcanonical, -⟩ := bind_ok.mp hwritten
  have hprune : Returns (pruneDraft now) { w.journal.memory with records } ()
      { w.journal.memory with records := pruned } := returns_pruneDraft.mpr ⟨pruned, hpruned, rfl⟩
  have hnormalAuthorised : Authorised config (Said steps) r.normal :=
    hauthorised.change known_none (.of_normal r)
  have hnormalAttempted : Attempted r.normal :=
    @Attempted.change config .none _ _ hattempted (.of_normal r)
  have hspoken := (hnormalAttempted.spoken (by
    show r.reservation.settlementTransactionHash.isSome = true
    rw [hrecorded]
    rfl)).resolve_left (by
      show ¬ r.reservation.state = .consumed
      rw [hstate]
      decide)
  obtain ⟨target, htarget, hnamed, hfence⟩ := exists_target hnormalAuthorised hspoken
  have hid : target.reservationId = id := hnamed.key.symm.trans (Table.get?_eq_some.mp hr).2
  have hsafe : now ≤ maxSafeInteger := (requireSafe_ok_iff.mp htime).2.1
  obtain ⟨⟨c, hc⟩, a, hbody⟩ := reconcileTerminal_releasing hprune (by rw [hid]; exact hget)
    (normal_normal r) hnamed hfence hnormalAttempted hstate hattempt hrecorded hk hroom.normal
    hlater hsafe (ofProtocol_ok hcanonical)
  obtain ⟨normal, hnormal⟩ := serializeStored_normal hwritten
  obtain ⟨form, hform⟩ := serializeStored_reconciled hnormal hc (serializeTerminal_releasing htime)
  obtain ⟨records'', hrecords''⟩ := Table.mapM_put hrecords' hform
  have hv : Books.withLocks { w.journal.memory with
      records := pruned.put (reconciledReservation r.normal (releasing target) now) } =
        .ok { w.journal.memory with
          records := pruned.put (reconciledReservation r.normal (releasing target) now), locks } := by
    rw [Books.withLocks, hlocks]
    rfl
  have hdone := transaction_done hopen hclone (returns_discard_of hbody) hv (show Books.write
      { w.journal.memory with
        records := pruned.put (reconciledReservation r.normal (releasing target) now), locks
        sequence := w.journal.memory.sequence + 1 } =
      .ok { w.journal.memory with
        records := records'', locks := locks', sequence := w.journal.memory.sequence + 1 } by
    simp only [Books.write, hrecords'', hlocks']
    rfl)
  have hprogram : (ReservationOp.reconcile (releasing target) (some (hex k))).program config now =
      .ok (discard (reconcileTerminal config (releasing target) (some (hex k)) now)) := by
    simp only [ReservationOp.program, canonicalAuthorityRequest_releasing htarget, htime,
      ok_bind]
    rfl
  have hnamedTransaction : namedTransaction .settled (some (hex k)) = some (hex k) := by
    simp only [namedTransaction, Option.getD_some, requireFeltText_hex hk]
    rfl
  have hcall : (ReservationOp.reconcile (releasing target) (some (hex k))).authorityCall =
      some (.terminal (releasing target) (some (hex k))) := by
    simp only [ReservationOp.authorityCall, canonicalAuthorityRequest_releasing htarget]
    exact congrArg (fun h => some (AuthorityCall.terminal (releasing target) h)) hnamedTransaction
  refine ⟨releasing target, some (hex k), ⟨rfl, ?_⟩,
    ⟨.terminal (releasing target) (some (hex k)), ?_, hid⟩, ?_⟩
  · rw [hnamedTransaction]
    exact feltValue_hex hk
  · simp only [accepted, reconciling, hprogram, hdone]
    exact hcall
  · refine ⟨reconciledReservation r.normal (releasing target) now, ?_, ?_⟩
    · show (w.act config _ now .done).journal.memory.records.get? id = _
      unfold Node.act
      rw [hprogram]
      dsimp only
      rw [hdone]
      refine get?_put_of_key ?_
      rw [recordKey_reconciled, ← hid]
      exact hnamed.key
    · show capacityLockedState (terminalVersion r.normal.reservation .settled now).state = false
      rw [terminalVersion_settled_state]
      rfl

theorem recorded_of_releases {w : Node} {o : ChainOutcome} {hash : Option Text}
    (hattempted : Attempted r) (hr : w.journal.memory.records.get? id = some r)
    (hstate : r.reservation.state = .quarantined)
    (hattempt : r.reservation.settlementAttemptId.isSome = true)
    (hagrees : o.Agrees input.outcome hash) (h : Releases config w id (reconciling input hash now)) :
    (∃ n, o = .settled n ∧ r.reservation.settlementTransactionHash.bind feltValue = some n) ∧
      HasRoom r ∧ r.reservation.updatedAt ≤ now ∧ requireTimestamp now "now" = .ok now ∧
      Serves w.journal now := by
  obtain ⟨⟨a, haccepted, hid⟩, c, hc, hfree⟩ := h
  obtain ⟨op, now', append, m, u, hstep, hm, hcall, htransaction⟩ := accepted_eq_some haccepted
  cases hstep
  obtain ⟨request, hrequest, hm⟩ := bind_ok.mp hm
  obtain ⟨time, htime, hm⟩ := bind_ok.mp hm
  cases hm
  obtain ⟨-, -, rfl⟩ := requireSafe_ok_iff.mp htime
  simp only [ReservationOp.authorityCall, hrequest] at hcall
  cases hcall
  obtain ⟨records, b, v, hclone, hbody, hlocks, hmemory, hwritten, hopen, -⟩ :=
    transaction_ok htransaction
  obtain ⟨answer, hbody⟩ := returns_discard hbody
  obtain ⟨p, r', u, hprune, hr', haddressed, hcases⟩ := reconcileTerminal_returns
    (cloneRecords_isDraft hclone) (canonicalAuthorityRequest_target hrequest) hbody
  obtain ⟨pruned, hpruned, rfl⟩ := returns_pruneDraft.mp hprune
  obtain ⟨hget, written, hserialized⟩ := pruned_quarantined hclone hpruned hr hstate
  have hid : request.target.reservationId = id := hid
  rw [hid] at hr'
  obtain rfl : r' = r.normal := Option.some.inj (hr'.symm.trans hget)
  have hmemoryGet : (step config w (reconciling input hash time)).journal.memory.records.get? id =
      b.records.get? id := by
    rw [hmemory]
    exact congrArg (·.get? id) (withLocks_records hlocks).1
  rw [hmemoryGet] at hc
  have houtcome : request.outcome = input.outcome := by
    simp only [canonicalAuthorityRequest, bind_ok, pure_ok] at hrequest
    obtain ⟨_, -, _, -, _, -, _, -, rfl⟩ := hrequest
    rfl
  rcases hcases with ⟨rfl, -⟩ | ⟨hnewer, hsupersedes, hallowed, hlater, rfl⟩
  · -- a repeat leaves the record quarantined
    obtain rfl : c = r.normal := Option.some.inj (hc.symm.trans hget)
    have hfree : capacityLockedState r.reservation.state = false := hfree
    rw [hstate] at hfree
    cases hfree
  · have hkey := (recordKey_reconciled r.normal request time).trans (haddressed.key.trans hid)
    have hnamed := recordedTransaction_of_check hallowed
    rw [houtcome] at hnamed
    have hsettled : input.outcome = .settled ∧ ∃ n, o = .settled n ∧
        (namedTransaction .settled hash).bind feltValue = some n := by
      cases o with
      | settled n => exact ⟨hagrees.1, n, rfl, hagrees.2⟩
      | refunded =>
        have hagrees : input.outcome = .refunded := hagrees
        rw [houtcome, hagrees] at hallowed
        simp only [checkOutcome, throwIf_ok, Bool.not_eq_false] at hallowed
        simp only [refundAllowed, decide_eq_true_eq] at hallowed
        have hnone : r.reservation.settlementAttemptId = none := hallowed.2.1
        rw [hnone] at hattempt
        cases hattempt
    obtain ⟨hinput, n, rfl, hvalue⟩ := hsettled
    rw [hinput] at hnamed
    have hrecorded : r.reservation.settlementTransactionHash.bind feltValue = some n := by
      rw [← hnamed] at hvalue
      obtain ⟨lower, hlower, hvalue⟩ := Option.bind_eq_some_iff.mp hvalue
      obtain ⟨text, htext, rfl⟩ := Option.map_eq_some_iff.mp hlower
      have htext : r.reservation.settlementTransactionHash = some text := htext
      obtain ⟨k, hk, rfl⟩ := hattempted.hash text htext
      rw [toLowerCase_hex] at hvalue
      rw [htext]
      exact hvalue
    obtain ⟨locks, hcloned, hv⟩ := bind_ok.mp hlocks
    cases hv
    rw [hmemory] at hwritten
    obtain ⟨records', hrecords', hwritten⟩ := bind_ok.mp hwritten
    obtain ⟨locks', hlocks', -⟩ := bind_ok.mp hwritten
    have hrecords' : (pruned.put (reconciledReservation r.normal request time)).mapM
        serializeStored = .ok records' := hrecords'
    have hforms := Table.mapM_isOk.mp ⟨records', hrecords'⟩
    obtain ⟨form, hform⟩ := hforms _ (Table.mem_put.mpr (Or.inl rfl))
    have hfence : r.reservation.fence < maxU256 := by
      have hle := fence_le_of_serialize hform
      have hraised : (reconciledReservation r.normal request time).reservation.fence =
          r.reservation.fence + 1 := by
        show (terminalVersion r.reservation request.outcome time).fence = _
        rw [houtcome, hinput]
        unfold terminalVersion
        dsimp only
        rw [if_neg (by rw [hstate]; decide)]
      omega
    have hsafe : request.authorityRevision ≤ maxSafeInteger := by
      simp only [canonicalAuthorityRequest, bind_ok, pure_ok] at hrequest
      obtain ⟨_, -, _, -, _, -, _, hrevision, rfl⟩ := hrequest
      obtain ⟨-, hle, rfl⟩ := requireSafe_ok_iff.mp hrevision
      exact hle
    refine ⟨⟨n, rfl, hrecorded⟩, .of_normal hfence hnewer hsupersedes hsafe, hlater, htime,
      serves_iff.mpr ⟨hopen, records, pruned, locks, hclone, hpruned, hcloned, ?_, locks', hlocks'⟩⟩
    refine Table.mapM_isOk.mpr fun z hz => ?_
    by_cases hzkey : recordKey z = recordKey (reconciledReservation r.normal request time)
    · have hz' := Table.get?_mem hz
      rw [hzkey, hkey] at hz'
      obtain rfl : z = r.normal := Option.some.inj (hz'.symm.trans hget)
      exact serializeStored_normal hserialized
    · exact hforms z (Table.mem_put.mpr (Or.inr ⟨hz, hzkey⟩))

/-- After any steps, and for a quarantined reservation that was attempted: there is a message
consistent with what the chain says that releases it exactly when the chain has settled the very
transaction that the record has, the numbers of the record have not run out, and the store takes a
transaction at some time after the record was last changed. -/
theorem releases_iff (config : Config) (steps : List Step) (id : Text) (o : ChainOutcome)
    (hr : (reached config steps).journal.memory.records.get? id = some r)
    (hstate : r.reservation.state = .quarantined)
    (hattempt : r.reservation.settlementAttemptId.isSome = true) :
    (∃ input hash now, o.Agrees input.outcome hash ∧
        Releases config (reached config steps) id (reconciling input hash now)) ↔
      (∃ n, o = .settled n ∧ r.reservation.settlementTransactionHash.bind feltValue = some n) ∧
        HasRoom r ∧ ∃ now, r.reservation.updatedAt ≤ now ∧ requireTimestamp now "now" = .ok now ∧
          Serves (reached config steps).journal now := by
  have hattempted := (attempted_reached config steps).memory id r hr
  constructor
  · rintro ⟨input, hash, now, hagrees, hreleases⟩
    obtain ⟨hrecorded, hroom, hlater, htime, hserves⟩ :=
      recorded_of_releases hattempted hr hstate hattempt hagrees hreleases
    exact ⟨hrecorded, hroom, now, hlater, htime, hserves⟩
  · rintro ⟨⟨n, rfl, hrecorded⟩, hroom, now, hlater, htime, hserves⟩
    obtain ⟨input, hash, hagrees, hreleases⟩ := releases_of_recorded
      ((authorities_reached config steps).memory id r hr) hattempted hr hstate hattempt hrecorded
      hroom hlater htime hserves
    exact ⟨input, hash, now, hagrees, hreleases⟩

end

/-! ## A crash during a fill -/

open Settled

namespace Settled

/-- After the fill an authority quarantines the reservation. -/
def quarantined : List Step := consumed ++ [.act (.quarantine (input 9) .authorityReorged) 20 .done]

/-- The node stops between the attempt of the fill and the answer, and is started again. -/
def crashed : List Step :=
  selected ++ [.fill fill (word '6') 13 .done, .invokeFill 0, .restart, .recover 14 .done]

def attemptOf (steps : List Step) : Option (Reservation.ReservationState × Bool × Option Text) :=
  ((reached config steps).journal.memory.records.get? (word '4')).map fun r =>
    (r.reservation.state, r.reservation.settlementAttemptId.isSome,
      r.reservation.settlementTransactionHash)

theorem attemptOf_quarantined :
    attemptOf quarantined = some (.quarantined, true, some "0xa".toList) := by decide +kernel

theorem attemptOf_crashed : attemptOf crashed = some (.quarantined, true, none) := by
  decide +kernel

end Settled

theorem releases_iff_quarantined :
    ∃ r, (reached config quarantined).journal.memory.records.get? (word '4') = some r ∧
      ((∃ input hash now, (ChainOutcome.settled 10).Agrees input.outcome hash ∧
          Releases config (reached config quarantined) (word '4') (reconciling input hash now)) ↔
        (∃ n, ChainOutcome.settled 10 = .settled n ∧
            r.reservation.settlementTransactionHash.bind feltValue = some n) ∧
          HasRoom r ∧ ∃ now, r.reservation.updatedAt ≤ now ∧
            requireTimestamp now "now" = .ok now ∧
            Serves (reached config quarantined).journal now) := by
  obtain ⟨r, hr, hattempt⟩ := Option.map_eq_some_iff.mp attemptOf_quarantined
  simp only [Prod.mk.injEq] at hattempt
  exact ⟨r, hr, releases_iff config quarantined (word '4') (.settled 10) hr hattempt.1 hattempt.2.1⟩

/-- A fill was attempted and its answer lost in a crash. Whatever the chain says, no message
consistent with it releases the reservation. -/
theorem never_released :
    ∃ r, (reached config crashed).journal.memory.records.get? (word '4') = some r ∧
      r.reservation.state = .quarantined ∧ r.reservation.settlementAttemptId.isSome = true ∧
      ∀ (o : ChainOutcome) (input : AuthorityRequest) (hash : Option Text) (now : Int),
        o.Agrees input.outcome hash →
          ¬ Releases config (reached config crashed) (word '4') (reconciling input hash now) := by
  obtain ⟨r, hr, hattempt⟩ := Option.map_eq_some_iff.mp attemptOf_crashed
  simp only [Prod.mk.injEq] at hattempt
  obtain ⟨hstate, hattempted, hnone⟩ := hattempt
  refine ⟨r, hr, hstate, hattempted, fun o input hash now hagrees hreleases => ?_⟩
  obtain ⟨⟨n, -, hrecorded⟩, -⟩ := recorded_of_releases
    ((attempted_reached config crashed).memory (word '4') r hr) hr hstate hattempted hagrees
    hreleases
  rw [hnone] at hrecorded
  cases hrecorded

end App20.Maker
