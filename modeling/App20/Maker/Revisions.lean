import App20.Maker.Reservations

/-!
# Revisions of reservations

What the transactions on reservations do with the records: each record of the new table is made of
the one under its key by changes of a few kinds, and no transaction but that of `reserve` adds one.

* `transition_revises`, `select_revises`, ... : one lemma for each program.
* `reserveDraft_returns`: what `reserve` adds.
-/

namespace App20.Maker

open App20.Lib App20.Lib.Exec App20.Domain App20.Intents
open App20.Reservation (MakerReservation ReservationCommand StoredReservation SignedQuote
  QuarantineReason Transitioned Transitions createMakerReservation_ok)
open Relation (ReflTransGen)

variable {config : Config}

/-- The messages of an authority that a step may take in. -/
structure Powers where
  quarantines : AuthorityRequest → QuarantineReason → Prop
  reconciles : AuthorityRequest → Option Text → Prop

def Powers.none : Powers := ⟨fun _ _ => False, fun _ _ => False⟩

variable {powers : Powers}

/-! ## Changes -/

/-- A message of an authority on a record of a draft: for a canonical target that is the record's. -/
structure Addressed (config : Config) (r : StoredReservation) (input : AuthorityRequest) : Prop where
  key : recordKey r = input.target.reservationId
  draft : r.normal = r
  target : canonicalReconciliationTarget input.target = .ok input.target
  binding : assertReconciliationBinding config (some r) input.target = .ok r

/-- The message's revision is later than that of the record's quarantine. -/
def Newer (r : StoredReservation) (input : AuthorityRequest) : Prop :=
  ∀ q, r.authorityQuarantine = some q → q.binding.authorityRevision < input.authorityRevision

/-- The message's revision is later than that of the record's terminal reconciliation, and the
outcome is the same. -/
def Supersedes (r : StoredReservation) (input : AuthorityRequest) : Prop :=
  ∀ t, r.terminalReconciliation = some t →
    t.binding.outcome = input.outcome ∧ t.binding.authorityRevision < input.authorityRevision

/-- The record that an authority's quarantine leaves. -/
def quarantinedReservation (r : StoredReservation) (input : AuthorityRequest)
    (reason : QuarantineReason) (now : Int) : StoredReservation :=
  { r with
    reservation := quarantinedVersion r.reservation reason now
    authorityQuarantine := some ⟨input.binding, reason, now⟩ }

/-- The record that a terminal reconciliation leaves. -/
def reconciledReservation (r : StoredReservation) (input : AuthorityRequest) (now : Int) :
    StoredReservation :=
  { r with
    reservation := terminalVersion r.reservation input.outcome now
    terminalReconciliation := some ⟨input.binding, now⟩ }

/-- What one step makes of a record. -/
inductive Change (config : Config) (powers : Powers) : StoredReservation → StoredReservation → Prop
  | respelled {r c : StoredReservation} (reservation : c.reservation = r.reservation)
      (normal : c.normal = r.normal) : Change config powers r c
  | moved {r : StoredReservation} {command : ReservationCommand} {n : MakerReservation}
      (transition : Transitioned r.reservation command n)
      (held : n.state = .quarantined → r.reservation.state ≠ .reserved) :
      Change config powers r { r with reservation := n }
  | signed {r : StoredReservation} {quote : SignedQuote} (state : r.reservation.state = .reserved)
      (fresh : r.quote = none) :
      Change config powers r { r with quote := some quote }
  | bound {r : StoredReservation} {deal ticket : Text} {deadline : Int}
      (settlementDealId : r.settlementDealId.all (· = deal) = true)
      (settlementDeadline : r.settlementDeadline.all (· = deadline) = true)
      (settlementTicketAddress : r.settlementTicketAddress.all (· = ticket) = true) :
      Change config powers r
        { r with
          settlementDealId := some deal, settlementDeadline := some deadline
          settlementTicketAddress := some ticket }
  | quarantined {r : StoredReservation} {input : AuthorityRequest} {reason : QuarantineReason}
      {now : Int} (taken : powers.quarantines input reason) (addressed : Addressed config r input)
      (newer : Newer r input) (supersedes : Supersedes r input) :
      Change config powers r (quarantinedReservation r input reason now)
  | reconciled {r : StoredReservation} {input : AuthorityRequest} {hash : Option Text} {now : Int}
      (taken : powers.reconciles input hash) (addressed : Addressed config r input)
      (newer : Newer r input) (supersedes : Supersedes r input)
      (allowed : checkOutcome r input.outcome hash = .ok ()) :
      Change config powers r (reconciledReservation r input now)

/-- The record under every key is made of the one that was there, and no reservation is made. -/
structure Follows (config : Config) (powers : Powers) (s t : Books) : Prop where
  made : t.made = s.made
  records : ∀ id r', t.records.get? id = some r' →
    ∃ r, s.records.get? id = some r ∧ ReflTransGen (Change config powers) r r'

/-- The same, with the locks as they were. -/
structure Revises (config : Config) (powers : Powers) (s t : Books) : Prop extends Follows config
    powers s t where
  locks : t.locks = s.locks

/-- The records of a draft are in their normal form. -/
def IsDraft (b : Books) : Prop := ∀ r ∈ b.records.entries, r.normal = r

theorem Follows.of_records {s t : Books} (hmade : t.made = s.made)
    (hrecords : t.records = s.records) : Follows config powers s t :=
  ⟨hmade, fun _ r' h => ⟨r', hrecords ▸ h, .refl⟩⟩

theorem Follows.trans {s t u : Books} (h : Follows config powers s t) (h' : Follows config powers t u) :
    Follows config powers s u := by
  refine ⟨h'.made.trans h.made, fun id r'' hr'' => ?_⟩
  obtain ⟨r', hr', hlater⟩ := h'.records id r'' hr''
  obtain ⟨r, hr, hchanges⟩ := h.records id r' hr'
  exact ⟨r, hr, hchanges.trans hlater⟩

theorem Revises.refl (s : Books) : Revises config powers s s := ⟨Follows.of_records rfl rfl, rfl⟩

theorem Revises.trans {s t u : Books} (h : Revises config powers s t) (h' : Revises config powers t u) :
    Revises config powers s u := ⟨h.toFollows.trans h'.toFollows, h'.locks.trans h.locks⟩

variable {id reservationId canonical : Text} {r : StoredReservation} {records : Records} {u : Unit}
  {signer : Except Text Text} {a : MakerReconciliationSnapshot} {target : MakerReconciliationTarget}
  {input : AuthorityRequest} {reason : QuarantineReason} {hash : Option Text}

theorem Revises.put {s : Books} {r' : StoredReservation} (hr : s.records.get? id = some r)
    (hkey : recordKey r' = recordKey r) (hchanges : ReflTransGen (Change config powers) r r') :
    Revises config powers s { s with records := s.records.put r' } := by
  refine ⟨⟨rfl, fun k c hc => ?_⟩, rfl⟩
  have hid : recordKey r' = id := hkey.trans (Table.get?_eq_some.mp hr).2
  by_cases hk : k = recordKey r'
  · subst hk
    have hsome : c = r' := Option.some.inj (hc.symm.trans Table.get?_put_self)
    exact ⟨r, by rw [hid]; exact hr, by rw [hsome]; exact hchanges⟩
  · have hc : s.records.get? k = some c := by
      rw [← Table.get?_put_of_ne hk]
      exact hc
    exact ⟨c, hc, .refl⟩

theorem Revises.mapM {s : Books} {f : StoredReservation → Except MakerError StoredReservation}
    (hkey : ∀ r r', f r = .ok r' → recordKey r' = recordKey r)
    (hf : ∀ r ∈ s.records.entries, ∀ r', f r = .ok r' → ReflTransGen (Change config powers) r r')
    (h : s.records.mapM f = .ok records) : Revises config powers s { s with records } := by
  refine ⟨⟨rfl, fun id r' hr' => ?_⟩, rfl⟩
  obtain ⟨hnone, hsome⟩ := Table.mapM_ok hkey h id
  cases hr : s.records.get? id with
  | none =>
    have hr' : records.get? id = some r' := hr'
    rw [hnone hr] at hr'
    cases hr'
  | some r =>
    obtain ⟨c, hc, hget⟩ := hsome r hr
    cases hget.symm.trans hr'
    exact ⟨r, rfl, hf r (Table.get?_eq_some.mp hr).1 r' hc⟩

/-! ## Writing and reading -/

theorem normal_normal (r : StoredReservation) : r.normal.normal = r.normal := by
  have htwice : ∀ t, toLowerCase (trim (toLowerCase (trim t))) = toLowerCase (trim t) :=
    lowered_lowered
  simp only [StoredReservation.normal, SignedQuote.normal,
    Reservation.ReconciliationBinding.normal, Option.map_map, Function.comp_def, trim_trim, htwice]
  rfl

theorem Change.of_normal (r : StoredReservation) : Change config powers r r.normal :=
  .respelled rfl (normal_normal r)

theorem cloneRecords_isDraft {s : Books} (h : cloneRecords s.records = .ok records) :
    IsDraft { s with records } := by
  intro c hc
  obtain ⟨r, -, rfl, -⟩ := mem_cloneRecords h hc
  exact normal_normal r

theorem cloneRecords_revises {s : Books} (h : cloneRecords s.records = .ok records) :
    Revises config powers s { s with records } := by
  refine Revises.mapM (fun _ _ => recordKey_clone) (fun r _ c hc => ?_) h
  rw [(cloneStored_ok hc).1]
  exact .single (.of_normal r)

theorem withRecords_follows {s t : Books} (h : s.withRecords = .ok t) : Follows config powers s t := by
  obtain ⟨records, hrecords, h⟩ := bind_ok.mp h
  cases h
  exact (cloneRecords_revises hrecords).toFollows

theorem withLocks_follows {s t : Books} (h : s.withLocks = .ok t) : Follows config powers s t := by
  obtain ⟨locks, -, h⟩ := bind_ok.mp h
  cases h
  exact Follows.of_records rfl rfl

theorem write_follows {s t : Books} (h : s.write = .ok t) : Follows config powers s t := by
  obtain ⟨records, hrecords, h⟩ := bind_ok.mp h
  obtain ⟨locks, -, h⟩ := bind_ok.mp h
  cases h
  have hkey : ∀ r w, serializeStored r = .ok w → recordKey w = recordKey r := fun r w hw =>
    congrArg MakerReservation.reservationId (serializeStored_ok hw).1
  refine (Revises.mapM hkey (fun r _ w hw => ?_) hrecords).toFollows.trans
    (Follows.of_records rfl rfl)
  obtain ⟨hreservation, hnormal⟩ := serializeStored_ok hw
  exact .single (.respelled hreservation hnormal)

theorem read_follows {s t : Books} (h : s.read = .ok t) : Follows config powers s t := by
  obtain ⟨records, hrecords, h⟩ := bind_ok.mp h
  obtain ⟨locks, -, h⟩ := bind_ok.mp h
  cases h
  have hkey : ∀ r c, deserializeStored r = .ok c → recordKey c = recordKey r := fun r c hc => by
    rw [(deserializeStored_ok hc).1]
    rfl
  refine (Revises.mapM hkey (fun r _ c hc => ?_) hrecords).toFollows.trans
    (Follows.of_records rfl rfl)
  rw [(deserializeStored_ok hc).1]
  exact .single (.of_normal r)

/-! ## Pruning -/

theorem pruneRecord_changes {now : Int} {p : StoredReservation} (h : pruneRecord now r = .ok p) :
    ReflTransGen (Change config powers) r p := by
  rcases pruneRecord_ok h with ⟨rfl, -⟩ | ⟨n, c, rfl, ht, -, -, ⟨-, hexpired⟩ | ⟨hheld, -⟩⟩
  · exact .refl
  · exact .single (.moved ht (by simp [hexpired]))
  · exact .single (.moved ht fun _ => hheld)

theorem pruneDraft_revises {now : Int} {s t : Books} (h : Returns (pruneDraft now) s u t) :
    Revises config powers s t := by
  obtain ⟨records, hrecords, rfl⟩ := returns_pruneDraft.mp h
  exact Revises.mapM (fun _ _ => recordKey_prune) (fun _ _ _ => pruneRecord_changes) hrecords

theorem pruneDraft_isDraft {now : Int} {s t : Books} (h : Returns (pruneDraft now) s u t)
    (hs : IsDraft s) : IsDraft t := by
  obtain ⟨records, hrecords, rfl⟩ := returns_pruneDraft.mp h
  intro p hp
  obtain ⟨r, hr, hpruned⟩ := mem_pruned hrecords hp
  have hnormal := hs r hr
  rcases pruneRecord_ok hpruned with ⟨rfl, -⟩ | ⟨n, c, rfl, -⟩
  · exact hnormal
  · show { r.normal with reservation := n } = _
    rw [hnormal]

/-! ## Programs -/

variable {s t : Books} {now : Int}

theorem putTransition_returns {command : ReservationCommand} {n : MakerReservation}
    (h : Returns (putTransition r command) s n t) :
    Transitioned r.reservation command n ∧
      t = { s with records := s.records.put { r with reservation := n } } := by
  unfold putTransition putRecord at h
  obtain ⟨n', hn, h⟩ := returns_lift_bind.mp h
  rw [returns_modify_bind] at h
  obtain ⟨rfl, rfl⟩ := returns_pure.mp h
  exact ⟨Reservation.transition_ok (ofProtocol_ok hn), rfl⟩

theorem putTransition_revises {command : ReservationCommand} {n : MakerReservation}
    (hr : s.records.get? id = some r) (h : Returns (putTransition r command) s n t)
    (hheld : Transitions r.reservation command n → n.state = .quarantined →
      r.reservation.state ≠ .reserved) : Revises config powers s t := by
  obtain ⟨ht, rfl⟩ := putTransition_returns h
  exact Revises.put hr ht.step.same.reservationId.symm (.single (.moved ht (hheld ht.step)))

theorem signable_revises {message : String} (h : Returns (signable reservationId now message) s r t) :
    Revises config powers s t ∧ r.reservation.state = .reserved ∧ ∃ id, t.records.get? id = some r := by
  unfold signable at h
  obtain ⟨_, p, hprune, h⟩ := returns_bind.mp h
  obtain ⟨id, -, h⟩ := returns_lift_bind.mp h
  rw [returns_get_bind] at h
  obtain ⟨hr, rfl⟩ := returns_expect.mp h
  obtain ⟨hr, hstate⟩ := Option.filter_eq_some_iff.mp hr
  exact ⟨pruneDraft_revises hprune, of_decide_eq_true hstate, id, hr⟩

theorem signCanonical_revises {digest : Text → Except String Text} {equivocation : String}
    {a : Text × Text} (hr : s.records.get? id = some r) (hstate : r.reservation.state = .reserved)
    (h : Returns (signCanonical r canonical signer digest equivocation) s a t) :
    Revises config powers s t := by
  unfold signCanonical at h
  split at h
  · obtain ⟨-, h⟩ := returns_assert_bind.mp h
    obtain ⟨-, rfl⟩ := returns_pure.mp h
    exact Revises.refl _
  · rename_i hfresh
    obtain ⟨signature, -, h⟩ := returns_lift_bind.mp h
    obtain ⟨quoteDigest, -, h⟩ := returns_lift_bind.mp h
    unfold putRecord at h
    rw [returns_modify_bind] at h
    obtain ⟨-, rfl⟩ := returns_pure.mp h
    exact Revises.put hr rfl (.single (.signed hstate hfresh))

theorem signQuote_revises {quote : UnsignedSolverQuote} {a : Text × Text}
    (h : Returns (signQuote config quote canonical signer now) s a t) :
    Revises config powers s t := by
  unfold signQuote at h
  obtain ⟨r, p, hsignable, h⟩ := returns_bind.mp h
  obtain ⟨_, -, h⟩ := returns_lift_bind.mp h
  obtain ⟨-, h⟩ := returns_assert_bind.mp h
  obtain ⟨-, h⟩ := returns_assert_bind.mp h
  obtain ⟨hpruned, hstate, id, hr⟩ := signable_revises hsignable
  exact hpruned.trans (signCanonical_revises hr hstate h)

theorem signQuoteV2_revises {quote : UnsignedSolverQuoteV2} {a : Text × Text}
    (h : Returns (signQuoteV2 config quote canonical signer now) s a t) :
    Revises config powers s t := by
  unfold signQuoteV2 at h
  obtain ⟨r, p, hsignable, h⟩ := returns_bind.mp h
  obtain ⟨-, h⟩ := returns_assert_bind.mp h
  obtain ⟨_, -, h⟩ := returns_lift_bind.mp h
  obtain ⟨-, h⟩ := returns_assert_bind.mp h
  obtain ⟨-, h⟩ := returns_assert_bind.mp h
  obtain ⟨hpruned, hstate, id, hr⟩ := signable_revises hsignable
  exact hpruned.trans (signCanonical_revises hr hstate h)

theorem select_returns {intentDigest : Text} {a : Int × Text}
    (h : Returns (select reservationId intentDigest now) s a t) :
    Revises config powers s t ∧ ∃ id r, requireHex32 reservationId "reservationId" = .ok id ∧
      t.records.get? id = some r ∧ r.reservation.state = .selected ∧ r.reservation.fence = a.1 := by
  unfold select at h
  obtain ⟨_, p, hprune, h⟩ := returns_bind.mp h
  simp only [returns_lift_bind, returns_get_bind, returns_expect_bind] at h
  obtain ⟨id, hid, _, -, r, hr, quote, -, h⟩ := h
  obtain ⟨hr, -⟩ := Option.filter_eq_some_iff.mp hr
  have hpruned : Revises config powers s p := pruneDraft_revises hprune
  split at h
  · rename_i hselected
    obtain ⟨rfl, rfl⟩ := returns_pure.mp h
    exact ⟨hpruned, id, r, hid, hr, hselected, rfl⟩
  · obtain ⟨-, h⟩ := returns_assert_bind.mp h
    obtain ⟨n, u, hput, h⟩ := returns_bind.mp h
    obtain ⟨rfl, rfl⟩ := returns_pure.mp h
    have hselected : Transitions r.reservation (.select r.reservation.fence now quote.quoteDigest) n →
        n.state = .selected := fun hstep => by
      cases hstep
      rfl
    refine ⟨hpruned.trans (putTransition_revises hr hput fun hstep => by simp [hselected hstep]), ?_⟩
    obtain ⟨ht, rfl⟩ := putTransition_returns hput
    have hkey : n.reservationId = id :=
      ht.step.same.reservationId.symm.trans (Table.get?_eq_some.mp hr).2
    subst hkey
    exact ⟨_, _, hid, Table.get?_put_self, hselected ht.step, rfl⟩

theorem release_revises {reason : Text} {a : Bool}
    (h : Returns (release reservationId now reason) s a t) : Revises config powers s t := by
  unfold release at h
  obtain ⟨_, p, hprune, h⟩ := returns_bind.mp h
  simp only [returns_lift_bind, returns_get_bind] at h
  obtain ⟨id, -, h⟩ := h
  refine (pruneDraft_revises hprune).trans ?_
  have hsame : ∀ {b : Bool}, Returns (pure b : BooksM Bool) p a t → Revises config powers p t := by
    intro b h
    obtain ⟨-, rfl⟩ := returns_pure.mp h
    exact Revises.refl _
  split at h
  · exact hsame h
  · rename_i r hr
    split at h
    · exact hsame h
    · split at h
      · exact hsame h
      · split at h
        · exact hsame h
        · obtain ⟨n, u, hput, h⟩ := returns_bind.mp h
          obtain ⟨-, rfl⟩ := returns_pure.mp h
          exact putTransition_revises hr hput fun hstep => by
            cases hstep
            simp

theorem bindSettlement_revises (h : Returns (bindSettlement config target now) s a t) :
    Revises config powers s t := by
  unfold bindSettlement at h
  obtain ⟨_, p, hprune, h⟩ := returns_bind.mp h
  simp only [returns_lift_bind, returns_get_bind, returns_expect_bind, returns_assert_bind] at h
  obtain ⟨r, hr, -, fence, -, ⟨-, hdeal, hdeadline, hticket⟩, h⟩ := h
  unfold putRecord at h
  rw [returns_modify_bind] at h
  obtain ⟨-, rfl⟩ := returns_lift.mp h
  exact (pruneDraft_revises hprune).trans
    (Revises.put hr rfl (.single (.bound hdeal hdeadline hticket)))

theorem readSnapshot_revises (h : Returns (readSnapshot config target now) s a t) :
    Revises config powers s t := by
  unfold readSnapshot at h
  obtain ⟨_, p, hprune, h⟩ := returns_bind.mp h
  simp only [returns_lift_bind, returns_get_bind] at h
  obtain ⟨r, -, h⟩ := h
  obtain ⟨-, rfl⟩ := returns_lift.mp h
  exact pruneDraft_revises hprune

/-- A record that passes the comparison with a target is the one under its key. -/
theorem assertReconciliationBinding_ok {record : Option StoredReservation}
    (h : assertReconciliationBinding config record target = .ok r) : record = some r := by
  unfold assertReconciliationBinding at h
  split at h
  · cases h
  · simp only [bind_ok, throwIf_ok, pure_ok, exists_const] at h
    obtain ⟨-, _, -, -, rfl⟩ := h
    rfl

theorem recordKey_quarantined (r : StoredReservation) (input : AuthorityRequest)
    (reason : QuarantineReason) (now : Int) :
    recordKey (quarantinedReservation r input reason now) = recordKey r := by
  unfold quarantinedReservation quarantinedVersion recordKey
  split <;> rfl

theorem recordKey_reconciled (r : StoredReservation) (input : AuthorityRequest) (now : Int) :
    recordKey (reconciledReservation r input now) = recordKey r := by
  unfold reconciledReservation terminalVersion recordKey
  split <;> split <;> rfl

theorem newQuarantine_returns (h : Returns (newQuarantine input reason now r) s a t) :
    Supersedes r input ∧
      t = { s with records := s.records.put (quarantinedReservation r input reason now) } := by
  unfold newQuarantine putRecord at h
  simp only [returns_lift_bind, returns_assert_bind, returns_modify_bind] at h
  obtain ⟨hsupersedes, -, _, -, h⟩ := h
  obtain ⟨-, rfl⟩ := returns_lift.mp h
  refine ⟨fun prior hprior => ?_, rfl⟩
  rw [hprior] at hsupersedes
  simpa using hsupersedes

section

variable (hs : IsDraft s) (htarget : canonicalReconciliationTarget input.target = .ok input.target)

include hs htarget

/-- A record that the table has under the target's key, and that the target names. -/
theorem addressed_of_binding
    (h : assertReconciliationBinding config (s.records.get? input.target.reservationId)
      input.target = .ok r) :
    s.records.get? input.target.reservationId = some r ∧ Addressed config r input := by
  have hr := assertReconciliationBinding_ok h
  rw [hr] at h
  obtain ⟨hmem, hkey⟩ := Table.get?_eq_some.mp hr
  exact ⟨hr, hkey, hs r hmem, htarget, h⟩

/-- A quarantine by an authority is a repeat that changes nothing, or supersedes what the record
has of authorities. -/
theorem quarantineForAuthority_returns
    (h : Returns (quarantineForAuthority config input reason now) s a t) :
    ∃ p r u, Returns (pruneDraft now) s u p ∧
      p.records.get? input.target.reservationId = some r ∧ Addressed config r input ∧
      ((t = p ∧ ∃ prior, r.authorityQuarantine = some prior ∧ prior.binding = input.binding ∧
          prior.reason = reason) ∨ (Newer r input ∧ Supersedes r input ∧
          t = { p with records := p.records.put (quarantinedReservation r input reason now) })) := by
  unfold quarantineForAuthority at h
  obtain ⟨u, p, hprune, h⟩ := returns_bind.mp h
  rw [returns_get_bind] at h
  obtain ⟨r, hbinding, h⟩ := returns_lift_bind.mp h
  obtain ⟨hr, haddressed⟩ := addressed_of_binding (pruneDraft_isDraft hprune hs) htarget hbinding
  refine ⟨p, r, u, hprune, hr, haddressed, ?_⟩
  split at h
  · rename_i hnone
    refine Or.inr ⟨fun q hq => ?_, newQuarantine_returns h⟩
    rw [hnone] at hq
    cases hq
  · rename_i prior hprior
    obtain ⟨hle, h⟩ := returns_assert_bind.mp h
    split at h
    · obtain ⟨⟨hsame, hreason⟩, h⟩ := returns_assert_bind.mp h
      obtain ⟨-, rfl⟩ := returns_lift.mp h
      exact Or.inl ⟨rfl, prior, hprior, hsame, hreason⟩
    · rename_i hne
      refine Or.inr ⟨fun q hq => ?_, newQuarantine_returns h⟩
      rw [hprior] at hq
      cases hq
      exact lt_of_le_of_ne hle hne

theorem quarantineForAuthority_revises (htaken : powers.quarantines input reason)
    (h : Returns (quarantineForAuthority config input reason now) s a t) :
    Revises config powers s t := by
  obtain ⟨p, r, u, hprune, hr, haddressed, hcases⟩ := quarantineForAuthority_returns hs htarget h
  have hpruned : Revises config powers s p := pruneDraft_revises hprune
  rcases hcases with ⟨rfl, -⟩ | ⟨hnewer, hsupersedes, rfl⟩
  · exact hpruned
  · exact hpruned.trans (Revises.put hr (recordKey_quarantined r input reason now)
      (.single (.quarantined htaken haddressed hnewer hsupersedes)))

end

theorem newTerminal_returns (h : Returns (newTerminal input hash now r) s a t) :
    (∀ prior, r.terminalReconciliation = some prior → prior.binding.outcome = input.outcome) ∧
      Newer r input ∧ checkOutcome r input.outcome hash = .ok () ∧ r.reservation.updatedAt ≤ now ∧
      t = { s with records := s.records.put (reconciledReservation r input now) } := by
  unfold newTerminal putRecord at h
  simp only [returns_lift_bind, returns_assert_bind, returns_modify_bind] at h
  obtain ⟨houtcome, hnewer, _, hallowed, hlater, _, -, h⟩ := h
  obtain ⟨-, rfl⟩ := returns_lift.mp h
  refine ⟨fun prior hprior => ?_, fun prior hprior => ?_, hallowed, hlater, rfl⟩
  · rw [hprior] at houtcome
    simpa using houtcome
  · rw [hprior] at hnewer
    simpa using hnewer

/-- A terminal reconciliation is a repeat that changes nothing, or supersedes what the record has
of authorities and agrees with its inventory. -/
theorem reconcileTerminal_returns (hs : IsDraft s)
    (htarget : canonicalReconciliationTarget input.target = .ok input.target)
    (h : Returns (reconcileTerminal config input hash now) s a t) :
    ∃ p r u, Returns (pruneDraft now) s u p ∧
      p.records.get? input.target.reservationId = some r ∧ Addressed config r input ∧
      ((t = p ∧ ∃ prior, r.terminalReconciliation = some prior ∧ prior.binding = input.binding) ∨
        (Newer r input ∧ Supersedes r input ∧ checkOutcome r input.outcome hash = .ok () ∧
          r.reservation.updatedAt ≤ now ∧
          t = { p with records := p.records.put (reconciledReservation r input now) })) := by
  unfold reconcileTerminal at h
  obtain ⟨u, p, hprune, h⟩ := returns_bind.mp h
  rw [returns_get_bind] at h
  obtain ⟨r, hbinding, h⟩ := returns_lift_bind.mp h
  obtain ⟨hr, haddressed⟩ := addressed_of_binding (pruneDraft_isDraft hprune hs) htarget hbinding
  refine ⟨p, r, u, hprune, hr, haddressed, ?_⟩
  split at h
  · rename_i hnone
    obtain ⟨-, hnewer, hallowed, hlater, ht⟩ := newTerminal_returns h
    refine Or.inr ⟨hnewer, fun prior hprior => ?_, hallowed, hlater, ht⟩
    rw [hnone] at hprior
    cases hprior
  · rename_i prior hprior
    obtain ⟨hle, h⟩ := returns_assert_bind.mp h
    split at h
    · obtain ⟨hsame, h⟩ := returns_assert_bind.mp h
      obtain ⟨-, rfl⟩ := returns_lift.mp h
      exact Or.inl ⟨rfl, prior, hprior, hsame⟩
    · rename_i hne
      obtain ⟨houtcome, hnewer, hallowed, hlater, ht⟩ := newTerminal_returns h
      refine Or.inr ⟨hnewer, fun last hlast => ⟨houtcome last hlast, ?_⟩, hallowed, hlater, ht⟩
      rw [hprior] at hlast
      cases hlast
      exact lt_of_le_of_ne hle hne

theorem reconcileTerminal_revises (hs : IsDraft s)
    (htarget : canonicalReconciliationTarget input.target = .ok input.target)
    (htaken : powers.reconciles input hash)
    (h : Returns (reconcileTerminal config input hash now) s a t) : Revises config powers s t := by
  obtain ⟨p, r, u, hprune, hr, haddressed, hcases⟩ := reconcileTerminal_returns hs htarget h
  have hpruned : Revises config powers s p := pruneDraft_revises hprune
  rcases hcases with ⟨rfl, -⟩ | ⟨hnewer, hsupersedes, hallowed, -, rfl⟩
  · exact hpruned
  · exact hpruned.trans (Revises.put hr (recordKey_reconciled r input now)
      (.single (.reconciled htaken haddressed hnewer hsupersedes hallowed)))

/-! ## Fills -/

theorem fillingRecord_eq_some {b : Books} :
    fillingRecord b id = some r ↔ b.records.get? id = some r ∧ r.reservation.state = .filling := by
  unfold fillingRecord
  rw [Option.filter_eq_some_iff, decide_eq_true_eq]

theorem completeFill_revises {transactionHash : Text}
    (h : Returns (completeFill reservationId transactionHash now) s u t) :
    Revises config powers s t := by
  unfold completeFill at h
  simp only [returns_get_bind, returns_expect_bind] at h
  obtain ⟨r, hr, h⟩ := h
  obtain ⟨n, v, hput, h⟩ := returns_bind.mp h
  obtain ⟨-, rfl⟩ := returns_pure.mp h
  obtain ⟨hr, hfilling⟩ := fillingRecord_eq_some.mp hr
  exact putTransition_revises hr hput (by simp [hfilling])

theorem failFill_revises (h : Returns (failFill reservationId now) s u t) :
    Revises config powers s t := by
  unfold failFill at h
  rw [returns_get_bind] at h
  split at h
  · obtain ⟨-, rfl⟩ := returns_pure.mp h
    exact Revises.refl _
  · rename_i r hr
    obtain ⟨n, v, hput, h⟩ := returns_bind.mp h
    obtain ⟨-, rfl⟩ := returns_pure.mp h
    obtain ⟨hr, hfilling⟩ := fillingRecord_eq_some.mp hr
    exact putTransition_revises hr hput (by simp [hfilling])

theorem quarantineFilling_changes {r' : StoredReservation} (h : quarantineFilling now r = .ok r') :
    recordKey r' = recordKey r ∧ ReflTransGen (Change config powers) r r' := by
  unfold quarantineFilling at h
  split at h
  · rename_i hfilling
    simp only [bind_ok, pure_ok] at h
    obtain ⟨n, hn, rfl⟩ := h
    have ht := Reservation.transition_ok (ofProtocol_ok hn)
    exact ⟨ht.step.same.reservationId.symm, .single (.moved ht (by simp [hfilling]))⟩
  · cases h
    exact ⟨rfl, .refl⟩

theorem recoverDraft_revises (h : Returns (recoverDraft now) s u t) :
    Revises config powers s t := by
  unfold recoverDraft at h
  obtain ⟨_, p, hprune, h⟩ := returns_bind.mp h
  rw [returns_get_bind] at h
  obtain ⟨records, hrecords, h⟩ := returns_lift_bind.mp h
  cases h
  have hchanges : ∀ r r', quarantineFilling now r = .ok r' →
      recordKey r' = recordKey r ∧ ReflTransGen (Change config powers) r r' :=
    fun _ _ => quarantineFilling_changes
  exact (pruneDraft_revises hprune).trans
    (Revises.mapM (fun r r' h => (hchanges r r' h).1) (fun r _ r' h => (hchanges r r' h).2) hrecords)

/-- Terms that are exact agree with the settlement fields that the record has. -/
theorem exactTerms_bound {request : MakerFillRequest} (h : exactTerms (some r) request = .ok true) :
    r.settlementDealId.all (· = toLowerCase request.dealId) = true ∧
      r.settlementDeadline.all (· = request.deadline) = true ∧
      r.settlementTicketAddress.all (· = toLowerCase request.ticketAddress) = true := by
  unfold exactTerms at h
  dsimp only at h
  obtain ⟨_, -, h⟩ := bind_ok.mp h
  split at h
  · cases h
  · obtain ⟨_, -, h⟩ := bind_ok.mp h
    have hmatches := pure_ok.mp h
    have hmatches := (Bool.and_eq_true_iff.mp hmatches.symm).2
    simp only [fillMatches, decide_eq_true_eq] at hmatches
    exact hmatches.2.2.2.2.2.2.2.2.2.2.2

/-- A fill that is begun takes the record from `selected` to `filling`. -/
theorem beginFill_returns {request : MakerFillRequest} {attemptId : Text} {a : FillAcquisition}
    (h : Returns (beginFill request attemptId now) s a t) :
    Revises config powers s t ∧ ∀ record, a = .begun record → record.reservation.state = .filling ∧
        t.records.get? (recordKey record) = some record ∧
        ∃ r p, Revises config powers s p ∧ p.records.get? (recordKey record) = some r ∧
          r.reservation.state = .selected := by
  unfold beginFill at h
  obtain ⟨_, p, hprune, h⟩ := returns_bind.mp h
  simp only [returns_lift_bind, returns_get_bind, returns_expect_bind] at h
  obtain ⟨id, -, exact, hexact, r, hr, h⟩ := h
  obtain ⟨hr, hexactTrue⟩ := Option.filter_eq_some_iff.mp hr
  have hpruned : Revises config powers s p := pruneDraft_revises hprune
  split at h
  · obtain ⟨-, h⟩ := returns_assert_bind.mp h
    obtain ⟨rfl, rfl⟩ := returns_pure.mp h
    exact ⟨hpruned, fun record hrecord => by cases hrecord⟩
  · rename_i hselected
    simp only [returns_assert_bind, returns_lift_bind] at h
    obtain ⟨-, attempt, -, n, hn, h⟩ := h
    unfold putRecord at h
    rw [returns_modify_bind] at h
    obtain ⟨rfl, rfl⟩ := returns_pure.mp h
    have ht := Reservation.transition_ok (ofProtocol_ok hn)
    have hkey : n.reservationId = r.reservation.reservationId := ht.step.same.reservationId.symm
    have hid : n.reservationId = id := hkey.trans (Table.get?_eq_some.mp hr).2
    rw [hr, hexactTrue] at hexact
    obtain ⟨hdeal, hdeadline, hticket⟩ := exactTerms_bound hexact
    have hmoved : Change config powers r { r with reservation := n } :=
      .moved ht (by simp [hselected])
    refine ⟨hpruned.trans (Revises.put hr hkey (.tail (.single hmoved) (.bound hdeal hdeadline
      hticket))), fun record hrecord => ?_⟩
    cases hrecord
    refine ⟨?_, Table.get?_put_self, r, p, hpruned, ?_, hselected⟩
    · cases ht.step
      rfl
    · show p.records.get? n.reservationId = some r
      rw [hid]
      exact hr
  · exact absurd h not_returns_throw

/-! ## New reservations -/

/-- A record as `reserve` makes it. -/
structure IsNew (r : StoredReservation) : Prop where
  created : Reservation.Created r.reservation
  authorityQuarantine : r.authorityQuarantine = none
  terminalReconciliation : r.terminalReconciliation = none

section

variable {request : MakerQuoteRequest} {rfqDigest : Text} {answers : ReserveAnswers} {a : Reserved}

theorem admitReservation_returns
    (h : Returns (admitReservation config request rfqDigest answers now) s a t) :
    ∃ r, IsNew r ∧ t = { s with records := s.records.put r, made := s.made ++ [recordKey r] } := by
  unfold admitReservation at h
  obtain ⟨price, hprice, h⟩ := returns_lift_bind.mp h
  obtain ⟨gross, provenance⟩ := price
  simp only [returns_lift_bind, returns_assert_bind, returns_get_bind] at h
  obtain ⟨_, -, -, _, -, _, -, _, -, -, id, hid, _, -, reservation, hreservation, _, -, h⟩ := h
  obtain ⟨_, u, hset, h⟩ := returns_bind.mp h
  obtain ⟨-, rfl⟩ := returns_pure.mp h
  cases hset
  obtain ⟨hkey, -, -, -, -, hcreated, -⟩ := createMakerReservation_ok (ofProtocol_ok hreservation)
  obtain ⟨hhex, hlower⟩ := requireHex32_ok_iff.mp hid
  rw [← hlower] at hhex
  rw [Reservation.requireDigest_of_isHex32 hhex] at hkey
  cases hkey
  exact ⟨_, ⟨hcreated, rfl, rfl⟩, rfl⟩

theorem reserveDraft_returns (h : Returns (reserveDraft config request rfqDigest answers now) s a t) :
    ∃ p, Revises config powers s p ∧ (t = p ∨ ∃ r, IsNew r ∧
      t = { p with records := p.records.put r, made := p.made ++ [recordKey r] }) := by
  unfold reserveDraft at h
  obtain ⟨_, p, hprune, h⟩ := returns_bind.mp h
  rw [returns_get_bind] at h
  refine ⟨p, pruneDraft_revises hprune, ?_⟩
  split at h
  · exact Or.inr (admitReservation_returns h)
  · simp only [returns_assert_bind] at h
    obtain ⟨-, -, h⟩ := h
    exact Or.inl (returns_pure.mp h).2

end

/-! ## Transactions -/

variable {α : Type} {P : Books → Prop} {j : Journal Books} {append : Append}

/-- A transaction on the reservations keeps what its program keeps on drafts. -/
theorem transaction_holds {m : BooksM α} (h : j.Holds P)
    (hP : ∀ s t, Follows config powers s t → P s → P t)
    (hm : ∀ s a t, IsDraft s → Returns m s a t → P s → P t) :
    (transaction m append j).2.Holds P := by
  refine Journal.Holds.transact (D := fun b => IsDraft b ∧ P b) h (fun _ h => h) ?_ ?_ ?_
  · intro s t hclone hs
    refine ⟨?_, hP s t (withRecords_follows hclone) hs⟩
    obtain ⟨records, hrecords, hclone⟩ := bind_ok.mp hclone
    cases hclone
    exact cloneRecords_isDraft hrecords
  · exact fun s t hwrite hs => hP s t (write_follows hwrite) hs
  · intro s a t hs hreturns
    obtain ⟨u, v, hbody, hclone, rfl⟩ := returns_committing.mp hreturns
    have hu := hm s a u hs.1 hbody hs.2
    exact hP v _ (Follows.of_records rfl rfl) (hP u v (withLocks_follows hclone) hu)

/-- A transaction on the locks keeps what its program keeps. -/
theorem lockTransaction_holds {m : BooksM α} (h : j.Holds P)
    (hP : ∀ s t, Follows config powers s t → P s → P t)
    (hm : ∀ s a t, Returns m s a t → P s → P t) : (lockTransaction m append j).2.Holds P := by
  refine Journal.Holds.transact (D := P) h (fun _ h => h) ?_ ?_ ?_
  · exact fun s t hclone hs => hP s t (withLocks_follows hclone) hs
  · exact fun s t hwrite hs => hP s t (write_follows hwrite) hs
  · intro s a t hs hreturns
    obtain ⟨u, v, hbody, hclone, rfl⟩ := returns_committing.mp hreturns
    have hu := hm s a u hbody hs
    exact hP v _ (Follows.of_records rfl rfl) (hP u v (withRecords_follows hclone) hu)

end App20.Maker
