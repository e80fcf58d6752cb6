import App20.Maker.RecordRuns

/-!
# Authorities over a run

What the messages of an outside authority leave in a record, and what the node has taken in of them
after any steps.

* `Authorised`: what a record has of authorities was said in some message on it.
* `revisions_increase`: a message that is taken in after another one on the same reservation has a
  higher revision, or is a repeat that changes nothing; and a terminal outcome does not flip.
* `repeat_of_other_transaction`: a settlement is taken in again with another transaction.
-/

namespace App20.Maker

open App20.Lib App20.Lib.Exec App20.Domain App20.Intents
open App20.Reservation (StoredReservation QuarantineReason ReconciliationOutcome
  TerminalReconciliation AuthorityQuarantine)
open Relation (ReflTransGen)

section

variable {config : Config} {powers : Powers} {r c : StoredReservation} {s t : Books}

/-! ## Messages -/

/-- The transaction that a message names; a refund names none. -/
def namedTransaction (outcome : ReconciliationOutcome) (hash : Option Text) : Option Text :=
  match outcome with
  | .settled => (requireFeltText (hash.getD []) "settlementTransactionHash").toOption
  | .refunded => none

/-- A message of an authority in its canonical form. -/
inductive AuthorityCall where
  | quarantine (input : AuthorityRequest) (reason : QuarantineReason)
  | terminal (input : AuthorityRequest) (transaction : Option Text)
  deriving DecidableEq

def AuthorityCall.input : AuthorityCall → AuthorityRequest
  | .quarantine input _ => input
  | .terminal input _ => input

def AuthorityCall.reservationId (a : AuthorityCall) : Text := a.input.target.reservationId

def AuthorityCall.revision (a : AuthorityCall) : Int := a.input.authorityRevision

def AuthorityCall.terminalOutcome : AuthorityCall → Option ReconciliationOutcome
  | .quarantine _ _ => none
  | .terminal input _ => some input.outcome

def ReservationOp.authorityCall : ReservationOp → Option AuthorityCall
  | .quarantine raw reason =>
    (canonicalAuthorityRequest "authority quarantine" raw).toOption.map (.quarantine · reason)
  | .reconcile raw hash =>
    (canonicalAuthorityRequest "terminal reconciliation" raw).toOption.map fun input =>
      .terminal input (namedTransaction input.outcome hash)
  | _ => none

def Step.authorityCall : Step → Option AuthorityCall
  | .act op _ _ => op.authorityCall
  | _ => none

/-- The message that a step takes in: its caller is told that it is done. -/
def accepted (config : Config) (w : Node) : Step → Option AuthorityCall
  | .act op now append =>
    match op.program config now with
    | .error _ => none
    | .ok m =>
      match (transaction m append w.journal).1 with
      | .ok _ => op.authorityCall
      | .error _ => none
  | _ => none

structure Known (said : AuthorityCall → Prop) (powers : Powers) : Prop where
  quarantines : ∀ input reason, powers.quarantines input reason →
    said (.quarantine input reason) ∧ input.binding.normal = input.binding
  reconciles : ∀ input hash, powers.reconciles input hash →
    said (.terminal input (namedTransaction input.outcome hash)) ∧
      input.binding.normal = input.binding

variable {input : AuthorityRequest} {said : AuthorityCall → Prop} {x : Step}
  {target : MakerReconciliationTarget} {now : Int} {w : Node} {a : AuthorityCall}
  {first : StoredReservation}

theorem binding_normal {label : String} {raw : AuthorityRequest}
    (h : canonicalAuthorityRequest label raw = .ok input) :
    input.binding.normal = input.binding := by
  simp only [canonicalAuthorityRequest, bind_ok, pure_ok] at h
  obtain ⟨target, -, attempt, hattempt, digest, hdigest, _, -, rfl⟩ := h
  have hattempt := (requireText_ok (requireText_again hattempt)).symm
  have hdigest := (requireHex32_ok (requireHex32_again hdigest)).symm
  unfold lowered at hdigest
  simp only [AuthorityRequest.binding, Reservation.ReconciliationBinding.normal, hattempt, hdigest]

theorem known_step (h : ∀ call, x.authorityCall = some call → said call) : Known said x.powers := by
  cases x with
  | act op now append =>
    constructor
    · rintro input reason ⟨raw, rfl, hraw⟩
      refine ⟨h _ ?_, binding_normal hraw⟩
      simp only [Step.authorityCall, ReservationOp.authorityCall, hraw]
      rfl
    · rintro input hash ⟨raw, rfl, hraw⟩
      refine ⟨h _ ?_, binding_normal hraw⟩
      simp only [Step.authorityCall, ReservationOp.authorityCall, hraw]
      rfl
  | _ => exact ⟨fun _ _ h => h.elim, fun _ _ h => h.elim⟩

/-! ## What a record has of authorities -/

/-- The record is the one that a target names, apart from the fence. -/
structure Named (config : Config) (r : StoredReservation) (target : MakerReconciliationTarget) :
    Prop where
  key : recordKey r = target.reservationId
  fields : targetMatches config r.normal target = true
  dealId : r.normal.settlementDealId = some target.dealId
  deadline : r.settlementDeadline = some target.deadline
  ticketAddress : r.normal.settlementTicketAddress = some target.ticketAddress

def recordedTransaction (r : StoredReservation) (outcome : ReconciliationOutcome) : Option Text :=
  match outcome with
  | .settled => r.reservation.settlementTransactionHash.map toLowerCase
  | .refunded => none

/-- What the record has of authorities was said in a message that names it; and there is none
before a quarantine or a terminal state. -/
structure Authorised (config : Config) (said : AuthorityCall → Prop) (r : StoredReservation) :
    Prop where
  quarantine : ∀ q, r.normal.authorityQuarantine = some q →
    ∃ input, said (.quarantine input q.reason) ∧ input.binding = q.binding ∧
      Named config r input.target
  terminal : ∀ t, r.normal.terminalReconciliation = some t →
    ∃ input, said (.terminal input (recordedTransaction r t.binding.outcome)) ∧
      input.binding = t.binding ∧ Named config r input.target
  state : ¬ r.reservation.state.Terminal →
    r.authorityQuarantine = none ∧ r.terminalReconciliation = none

theorem Authorised.mono {said' : AuthorityCall → Prop} (h : Authorised config said r)
    (hsaid : ∀ call, said call → said' call) : Authorised config said' r := by
  refine ⟨fun q hq => ?_, fun t ht => ?_, h.state⟩
  · obtain ⟨input, hin, hrest⟩ := h.quarantine q hq
    exact ⟨input, hsaid _ hin, hrest⟩
  · obtain ⟨input, hin, hrest⟩ := h.terminal t ht
    exact ⟨input, hsaid _ hin, hrest⟩

/-- A record without anything of authorities. -/
theorem Authorised.of_none (hq : r.authorityQuarantine = none)
    (ht : r.terminalReconciliation = none) : Authorised config said r := by
  refine ⟨fun q h => ?_, fun t h => ?_, fun _ => ⟨hq, ht⟩⟩
  · simp [StoredReservation.normal, hq] at h
  · simp [StoredReservation.normal, ht] at h

theorem Addressed.named (h : Addressed config r input) : Named config r input.target := by
  have hbinding := h.binding
  unfold assertReconciliationBinding at hbinding
  simp only [bind_ok, throwIf_ok, not_or, not_not, Bool.not_eq_false] at hbinding
  obtain ⟨_, ⟨hfields, hdeal, hdeadline, hticket⟩, -⟩ := hbinding
  exact ⟨h.key, by rwa [h.draft], by rwa [h.draft], hdeadline, by rwa [h.draft]⟩

theorem Named.congr (h : Named config r target) (hkey : recordKey c = recordKey r)
    (hintent : c.reservation.intentDigest = r.reservation.intentDigest) (hnormal : { c.normal with
        reservation := r.reservation
        authorityQuarantine := r.normal.authorityQuarantine
        terminalReconciliation := r.normal.terminalReconciliation } = r.normal) :
    Named config c target := by
  obtain ⟨hk, hfields, hdeal, hdeadline, hticket⟩ := h
  rw [← hnormal] at hfields hdeal hticket
  have hd := congrArg StoredReservation.settlementDeadline hnormal
  refine ⟨hkey.trans hk, ?_, hdeal, ?_, hticket⟩
  · simp only [targetMatches, decide_eq_true_eq] at hfields ⊢
    rw [show c.normal.reservation.intentDigest = r.reservation.intentDigest from hintent]
    exact hfields
  · rw [← hdeadline]
    exact hd

theorem quarantinedVersion_kept (n : Reservation.MakerReservation) (reason : QuarantineReason)
    (now : Int) :
    (quarantinedVersion n reason now).intentDigest = n.intentDigest ∧
      (quarantinedVersion n reason now).settlementTransactionHash =
        n.settlementTransactionHash := by
  unfold quarantinedVersion
  split <;> exact ⟨rfl, rfl⟩

theorem terminalVersion_kept (n : Reservation.MakerReservation) (outcome : ReconciliationOutcome)
    (now : Int) :
    (terminalVersion n outcome now).intentDigest = n.intentDigest ∧
      (terminalVersion n outcome now).settlementTransactionHash = n.settlementTransactionHash := by
  unfold terminalVersion
  split <;> split <;> exact ⟨rfl, rfl⟩

theorem terminalVersion_terminal (n : Reservation.MakerReservation)
    (outcome : ReconciliationOutcome) (now : Int) :
    (terminalVersion n outcome now).state.Terminal := by
  cases outcome with
  | settled => exact Or.inr (Or.inl (terminalVersion_settled_state n now))
  | refunded => exact Or.inl (terminalVersion_refunded_state n now)

theorem recordedTransaction_congr
    (h : c.reservation.settlementTransactionHash = r.reservation.settlementTransactionHash)
    (outcome : ReconciliationOutcome) :
    recordedTransaction c outcome = recordedTransaction r outcome := by
  unfold recordedTransaction
  rw [h]

theorem recordedTransaction_of_check {outcome : ReconciliationOutcome} {hash : Option Text}
    (h : checkOutcome r outcome hash = .ok ()) :
    recordedTransaction r outcome = namedTransaction outcome hash := by
  cases outcome with
  | refunded => rfl
  | settled =>
    simp only [checkOutcome, bind_ok, throwIf_ok, Bool.not_eq_false] at h
    obtain ⟨u, hu, hmatches⟩ := h
    simp only [settledMatches, decide_eq_true_eq] at hmatches
    unfold recordedTransaction namedTransaction
    dsimp only
    rw [hu, hmatches.2.2]
    rfl

theorem recordedTransaction_reconciled (r : StoredReservation) (input : AuthorityRequest)
    (now : Int) (outcome : ReconciliationOutcome) :
    recordedTransaction (reconciledReservation r input now) outcome =
      recordedTransaction r outcome :=
  recordedTransaction_congr (terminalVersion_kept r.reservation input.outcome now).2 outcome

theorem named_quarantined (h : Named config r target) (input : AuthorityRequest)
    (reason : QuarantineReason) (now : Int) :
    Named config (quarantinedReservation r input reason now) target :=
  h.congr (recordKey_quarantined r input reason now)
    (quarantinedVersion_kept r.reservation reason now).1 (by rfl)

theorem named_reconciled (h : Named config r target) (input : AuthorityRequest) (now : Int) :
    Named config (reconciledReservation r input now) target :=
  h.congr (recordKey_reconciled r input now)
    (terminalVersion_kept r.reservation input.outcome now).1 (by rfl)

/-- Every change of a record keeps what it has of authorities, or replaces it by a message. -/
theorem Authorised.change (hknown : Known said powers) (h : Authorised config said r)
    (hchange : Change config powers r c) : Authorised config said c := by
  cases hchange with
  | respelled hreservation hnormal =>
    have hkey : recordKey c = recordKey r := congrArg (·.reservationId) hreservation
    have hintent := congrArg (·.intentDigest) hreservation
    have hhash := congrArg (·.settlementTransactionHash) hreservation
    have hnamed : ∀ {target}, Named config r target → Named config c target := fun hn =>
      hn.congr hkey hintent (by rw [hnormal]; rfl)
    have hq := congrArg StoredReservation.authorityQuarantine hnormal
    have ht := congrArg StoredReservation.terminalReconciliation hnormal
    refine ⟨fun q hq' => ?_, fun t ht' => ?_, fun hstate => ?_⟩
    · obtain ⟨input, hin, hbinding, hn⟩ := h.quarantine q (by rw [← hnormal]; exact hq')
      exact ⟨input, hin, hbinding, hnamed hn⟩
    · obtain ⟨input, hin, hbinding, hn⟩ := h.terminal t (by rw [← hnormal]; exact ht')
      exact ⟨input, by rwa [recordedTransaction_congr hhash], hbinding, hnamed hn⟩
    · rw [hreservation] at hstate
      obtain ⟨hqn, htn⟩ := h.state hstate
      simp only [StoredReservation.normal, hqn, htn, Option.map_none, Option.map_eq_none_iff]
        at hq ht
      exact ⟨hq, ht⟩
  | moved ht _ =>
    obtain ⟨hq, hterminal⟩ := h.state ht.active
    exact .of_none hq hterminal
  | signed hstate =>
    obtain ⟨hq, hterminal⟩ := h.state (by rw [hstate]; decide)
    exact .of_none hq hterminal
  | @bound deal ticket deadline hdeal hdeadline hticket =>
    have hnamed : ∀ {target}, Named config r target →
        r.settlementDealId = some deal ∧ r.settlementDeadline = some deadline ∧
          r.settlementTicketAddress = some ticket := by
      intro target hn
      obtain ⟨d, hd, -⟩ := Option.map_eq_some_iff.mp hn.dealId
      obtain ⟨a, ha, -⟩ := Option.map_eq_some_iff.mp hn.ticketAddress
      have hl := hn.deadline
      rw [hd] at hdeal
      rw [ha] at hticket
      rw [hl] at hdeadline
      simp only [Option.all_some, decide_eq_true_eq] at hdeal hticket hdeadline
      exact ⟨by rw [hd, hdeal], by rw [hl, hdeadline], by rw [ha, hticket]⟩
    have hsame : ∀ {target}, Named config r target → _ = r := fun hn => by
      obtain ⟨hd, hl, ha⟩ := hnamed hn
      show { r with
        settlementDealId := some deal, settlementDeadline := some deadline
        settlementTicketAddress := some ticket } = r
      rw [← hd, ← hl, ← ha]
    refine ⟨fun q hq => ?_, fun t ht => ?_, h.state⟩
    · obtain ⟨input, hin, hbinding, hn⟩ := h.quarantine q hq
      exact ⟨input, hin, hbinding, by rwa [hsame hn]⟩
    · obtain ⟨input, hin, hbinding, hn⟩ := h.terminal t ht
      exact ⟨input, hin, hbinding, by rwa [hsame hn]⟩
  | @quarantined input reason now htaken haddressed =>
    obtain ⟨hsaid, hbinding⟩ := hknown.quarantines input reason htaken
    refine ⟨fun q hq => ?_, fun t ht => ?_, fun hstate => ?_⟩
    · cases hq
      exact ⟨input, hsaid, hbinding.symm, named_quarantined haddressed.named input reason now⟩
    · obtain ⟨first, hin, hfirst, hn⟩ := h.terminal t ht
      refine ⟨first, ?_, hfirst, named_quarantined hn input reason now⟩
      rwa [recordedTransaction_congr (quarantinedVersion_kept r.reservation reason now).2]
    · exact absurd (Or.inr (Or.inr (Or.inr (quarantinedVersion_state r.reservation reason now))))
        hstate
  | @reconciled input hash now htaken haddressed _ _ hallowed =>
    obtain ⟨hsaid, hbinding⟩ := hknown.reconciles input hash htaken
    refine ⟨fun q hq => ?_, fun t ht => ?_, fun hstate => ?_⟩
    · obtain ⟨first, hin, hfirst, hn⟩ := h.quarantine q hq
      exact ⟨first, hin, hfirst, named_reconciled hn input now⟩
    · cases ht
      refine ⟨input, ?_, hbinding.symm, named_reconciled haddressed.named input now⟩
      rw [recordedTransaction_reconciled]
      show said (.terminal input (recordedTransaction r input.binding.normal.outcome))
      rw [hbinding]
      show said (.terminal input (recordedTransaction r input.outcome))
      rwa [recordedTransaction_of_check hallowed]
    · exact absurd (terminalVersion_terminal r.reservation input.outcome now) hstate

theorem Authorised.changes (hknown : Known said powers) (h : Authorised config said r)
    (hchanges : ReflTransGen (Change config powers) r c) : Authorised config said c := by
  induction hchanges with
  | refl => exact h
  | tail _ hchange ih => exact ih.change hknown hchange

/-! ## What is kept since a message -/

/-- The record has a message of this revision or a later one, and the terminal outcome, if one is
given. -/
structure Marked (revision : Int) (outcome : Option ReconciliationOutcome)
    (r : StoredReservation) : Prop where
  revision : (∃ q, r.authorityQuarantine = some q ∧ revision ≤ q.binding.authorityRevision) ∨
    ∃ t, r.terminalReconciliation = some t ∧ revision ≤ t.binding.authorityRevision
  outcome : ∀ o, outcome = some o → r.terminalReconciliation.map (·.binding.outcome) = some o

variable {revision : Int} {outcome : Option ReconciliationOutcome}

theorem Marked.congr (h : Marked revision outcome r)
    (hq : c.authorityQuarantine = r.authorityQuarantine)
    (ht : c.terminalReconciliation = r.terminalReconciliation) : Marked revision outcome c :=
  ⟨by rw [hq, ht]; exact h.revision, by rw [ht]; exact h.outcome⟩

theorem Marked.of_normal (h : Marked revision outcome r.normal) : Marked revision outcome r := by
  refine ⟨?_, fun o ho => ?_⟩
  · rcases h.revision with ⟨q, hq, hle⟩ | ⟨t, ht, hle⟩
    · obtain ⟨q', hq', rfl⟩ := Option.map_eq_some_iff.mp hq
      exact Or.inl ⟨q', hq', hle⟩
    · obtain ⟨t', ht', rfl⟩ := Option.map_eq_some_iff.mp ht
      exact Or.inr ⟨t', ht', hle⟩
  · rw [← h.outcome o ho]
    simp only [StoredReservation.normal, Option.map_map]
    rfl

section

variable (h : Marked revision outcome r)

include h

theorem Marked.normal : Marked revision outcome r.normal := by
  refine ⟨?_, fun o ho => ?_⟩
  · rcases h.revision with ⟨q, hq, hle⟩ | ⟨t, ht, hle⟩
    · exact Or.inl ⟨_, congrArg (Option.map _) hq, hle⟩
    · exact Or.inr ⟨_, congrArg (Option.map _) ht, hle⟩
  · rw [← h.outcome o ho]
    simp only [StoredReservation.normal, Option.map_map]
    rfl

theorem Marked.lt (hnewer : Newer r input) (hsupersedes : Supersedes r input) :
    revision < input.authorityRevision := by
  rcases h.revision with ⟨q, hq, hle⟩ | ⟨t, ht, hle⟩
  · exact lt_of_le_of_lt hle (hnewer q hq)
  · exact lt_of_le_of_lt hle (hsupersedes t ht).2

theorem Marked.outcome_eq (hsupersedes : Supersedes r input) {o : ReconciliationOutcome}
    (ho : outcome = some o) : input.outcome = o := by
  obtain ⟨t, ht, rfl⟩ := Option.map_eq_some_iff.mp (h.outcome o ho)
  exact (hsupersedes t ht).1.symm

theorem Marked.change (hchange : Change config powers r c) : Marked revision outcome c := by
  cases hchange with
  | respelled _ hnormal => exact .of_normal (hnormal ▸ h.normal)
  | moved | signed | bound => exact h.congr rfl rfl
  | quarantined _ _ hnewer hsupersedes =>
    exact ⟨Or.inl ⟨_, rfl, (h.lt hnewer hsupersedes).le⟩, h.outcome⟩
  | reconciled _ _ hnewer hsupersedes _ =>
    refine ⟨Or.inr ⟨_, rfl, (h.lt hnewer hsupersedes).le⟩, fun o ho => ?_⟩
    rw [← h.outcome_eq hsupersedes ho]
    rfl

theorem Marked.changes (hchanges : ReflTransGen (Change config powers) r c) :
    Marked revision outcome c := by
  induction hchanges with
  | refl => exact h
  | tail _ hchange ih => exact ih.change hchange

end

/-- As long as no other reservation is made with the id, the record under it is marked. -/
def Since (id : Text) (made : Nat) (revision : Int) (outcome : Option ReconciliationOutcome)
    (b : Books) : Prop :=
  made ≤ b.made.count id ∧
    (b.made.count id = made → ∀ r, b.records.get? id = some r → Marked revision outcome r)

variable {id : Text} {made : Nat}

theorem since_run (steps : List Step) (h : w.journal.Holds (Since id made revision outcome)) :
    (run (step config) w steps).journal.Holds (Since id made revision outcome) :=
  keeps_run (fun _ _ _ hchange h => h.change hchange) steps h

/-! ## What is known after any steps -/

def Said (steps : List Step) (a : AuthorityCall) : Prop := ∃ z ∈ steps, z.authorityCall = some a

theorem authorities_reached (config : Config) (steps : List Step) :
    (reached config steps).journal.Holds (Books.Each (Authorised config (Said steps))) := by
  induction steps using List.reverseRecOn with
  | nil => exact ⟨fun _ _ hr => (by cases hr), fun _ _ hr => (by cases hr)⟩
  | append_singleton steps x ih =>
    have hmono : ∀ b, Books.Each (Authorised config (Said steps)) b →
        Books.Each (Authorised config (Said (steps ++ [x]))) b := fun b hb id r hr =>
      (hb id r hr).mono fun _ ⟨z, hz, hcall⟩ => ⟨z, List.mem_append_left _ hz, hcall⟩
    have hknown : Known (Said (steps ++ [x])) x.powers := known_step fun call hcall =>
      ⟨x, List.mem_append_right _ (List.mem_singleton.mpr rfl), hcall⟩
    have hreached : reached config (steps ++ [x]) = step config (reached config steps) x :=
      run_append
    rw [hreached]
    exact step_holds x ⟨hmono _ ih.memory, hmono _ ih.durable⟩
      (fun _ _ hst hs => hs.follows (fun _ _ hchange h => h.change hknown hchange) hst)
      fun _ r hnew hs => hs.put (.of_none hnew.authorityQuarantine hnew.terminalReconciliation)

/-! ## Taking in a message -/

/-- The record has the very message already. -/
def AuthorityCall.Repeats (r : StoredReservation) : AuthorityCall → Prop
  | .quarantine input reason => ∃ prior, r.authorityQuarantine = some prior ∧
      prior.binding = input.binding ∧ prior.reason = reason
  | .terminal input _ => ∃ prior, r.terminalReconciliation = some prior ∧
      prior.binding = input.binding

/-- What taking in a message does with the record under its id: after pruning it is the one that
the message names, and it is left so or superseded. -/
structure Taken (config : Config) (w w' : Node) (a : AuthorityCall) (now : Int)
    (first r c : StoredReservation) : Prop where
  found : w.journal.memory.records.get? a.reservationId = some first
  pruned : pruneRecord now first.normal = .ok r
  addressed : Addressed config r a.input
  cases : (c = r ∧ a.Repeats r) ∨ (Newer r a.input ∧ Supersedes r a.input)
  marked : Marked a.revision a.terminalOutcome c
  memory : w'.journal.memory.records.get? a.reservationId = some c
  durable : w'.journal.memory.write = .ok w'.journal.durable
  made : w'.journal.memory.made = w.journal.memory.made

theorem pruned_record {records : Records} {p : Books} {u : Unit}
    (hclone : cloneRecords s.records = .ok records)
    (hprune : Returns (pruneDraft now) { s with records } u p) {id : Text}
    (hr : p.records.get? id = some r) :
    ∃ first, s.records.get? id = some first ∧ pruneRecord now first.normal = .ok r := by
  obtain ⟨pruned, hpruned, rfl⟩ := returns_pruneDraft.mp hprune
  obtain ⟨hnone, hsome⟩ := Table.mapM_ok (fun _ _ => recordKey_prune) hpruned id
  obtain ⟨hnone', hsome'⟩ := Table.mapM_ok (fun _ _ => recordKey_clone) hclone id
  cases hfirst : s.records.get? id with
  | none =>
    have hr : pruned.get? id = some r := hr
    rw [hnone (hnone' hfirst)] at hr
    cases hr
  | some first =>
    obtain ⟨c, hc, hget⟩ := hsome' first hfirst
    obtain ⟨r', hr', hget'⟩ := hsome c hget
    cases hget'.symm.trans hr
    rw [(cloneStored_ok hc).1] at hr'
    exact ⟨first, rfl, hr'⟩

theorem accepted_eq_some (h : accepted config w x = some a) :
    ∃ op now append m u, x = .act op now append ∧ op.program config now = .ok m ∧
      op.authorityCall = some a ∧
      transaction m append w.journal = (.ok u, (step config w x).journal) := by
  unfold accepted at h
  split at h
  · rename_i op now append
    split at h
    · cases h
    · rename_i m hm
      split at h
      · rename_i u hu
        refine ⟨op, now, append, m, u, rfl, hm, h, Prod.ext hu ?_⟩
        show _ = (w.act config op now append).journal
        unfold Node.act
        rw [hm]
      · cases h
  · cases h

theorem get?_put_of_key {records : Records} {id : Text} (h : recordKey c = id) :
    (records.put c).get? id = some c := by
  subst h
  exact Table.get?_put_self

theorem withLocks_records {s t : Books} (h : s.withLocks = .ok t) :
    t.records = s.records ∧ t.made = s.made := by
  obtain ⟨locks, -, h⟩ := bind_ok.mp h
  cases h
  exact ⟨rfl, rfl⟩

theorem accepted_taken (h : accepted config w x = some a) :
    ∃ now first r c, Taken config w (step config w x) a now first r c := by
  obtain ⟨op, now, append, m, u, rfl, hm, hcall, htransaction⟩ := accepted_eq_some h
  obtain ⟨records, b, v, hclone, hbody, hlocks, hmemory, hwritten, -⟩ := transaction_ok htransaction
  obtain ⟨hrecords, hmade⟩ := withLocks_records hlocks
  have hget : ∀ id, (step config w (.act op now append)).journal.memory.records.get? id =
      b.records.get? id := fun id => by
    rw [hmemory]
    exact congrArg (·.get? id) hrecords
  have hsame : (step config w (.act op now append)).journal.memory.made = b.made := by
    rw [hmemory]
    exact hmade
  have hdraft : IsDraft { w.journal.memory with records } := cloneRecords_isDraft hclone
  cases op with
  | quarantine raw reason =>
    obtain ⟨input, hinput, hm⟩ := bind_ok.mp hm
    obtain ⟨_, -, hm⟩ := bind_ok.mp hm
    cases hm
    simp only [ReservationOp.authorityCall, hinput] at hcall
    cases hcall
    obtain ⟨answer, hbody⟩ := returns_discard hbody
    obtain ⟨p, r, u, hprune, hr, haddressed, hcases⟩ :=
      quarantineForAuthority_returns hdraft (canonicalAuthorityRequest_target hinput) hbody
    obtain ⟨first, hfirst, hpruned⟩ := pruned_record hclone hprune hr
    have hmadePruned : p.made = w.journal.memory.made :=
      (show Revises config .none _ p from pruneDraft_revises hprune).made
    rcases hcases with ⟨rfl, hrepeat⟩ | ⟨hnewer, hsupersedes, rfl⟩
    · obtain ⟨prior, hprior, hbinding, hreason⟩ := hrepeat
      have hmarked : Marked input.authorityRevision none r :=
        ⟨Or.inl ⟨prior, hprior, by rw [hbinding]; exact le_refl _⟩, fun _ ho => by cases ho⟩
      exact ⟨now, first, r, r, hfirst, hpruned, haddressed,
        Or.inl ⟨rfl, prior, hprior, hbinding, hreason⟩, hmarked, (hget _).trans hr, hwritten,
        hsame.trans hmadePruned⟩
    · have hkey := (recordKey_quarantined r input reason now).trans haddressed.key
      exact ⟨now, first, r, quarantinedReservation r input reason now, hfirst, hpruned,
        haddressed, Or.inr ⟨hnewer, hsupersedes⟩,
        ⟨Or.inl ⟨_, rfl, le_refl _⟩, fun _ ho => by cases ho⟩,
        (hget _).trans (get?_put_of_key hkey), hwritten, hsame.trans hmadePruned⟩
  | reconcile raw hash =>
    obtain ⟨input, hinput, hm⟩ := bind_ok.mp hm
    obtain ⟨_, -, hm⟩ := bind_ok.mp hm
    cases hm
    simp only [ReservationOp.authorityCall, hinput] at hcall
    cases hcall
    obtain ⟨answer, hbody⟩ := returns_discard hbody
    obtain ⟨p, r, u, hprune, hr, haddressed, hcases⟩ :=
      reconcileTerminal_returns hdraft (canonicalAuthorityRequest_target hinput) hbody
    obtain ⟨first, hfirst, hpruned⟩ := pruned_record hclone hprune hr
    have hmadePruned : p.made = w.journal.memory.made :=
      (show Revises config .none _ p from pruneDraft_revises hprune).made
    rcases hcases with ⟨rfl, hrepeat⟩ | ⟨hnewer, hsupersedes, -, -, rfl⟩
    · obtain ⟨prior, hprior, hbinding⟩ := hrepeat
      have hmarked : Marked input.authorityRevision (some input.outcome) r := by
        refine ⟨Or.inr ⟨prior, hprior, by rw [hbinding]; exact le_refl _⟩, fun o ho => ?_⟩
        rw [← ho, hprior]
        exact congrArg (fun b => some b.outcome) hbinding
      exact ⟨now, first, r, r, hfirst, hpruned, haddressed,
        Or.inl ⟨rfl, prior, hprior, hbinding⟩, hmarked, (hget _).trans hr, hwritten,
        hsame.trans hmadePruned⟩
    · have hkey := (recordKey_reconciled r input now).trans haddressed.key
      exact ⟨now, first, r, reconciledReservation r input now, hfirst, hpruned, haddressed,
        Or.inr ⟨hnewer, hsupersedes⟩, ⟨Or.inr ⟨_, rfl, le_refl _⟩, fun _ ho => ho⟩,
        (hget _).trans (get?_put_of_key hkey),
        hwritten, hsame.trans hmadePruned⟩
  | _ => cases hcall

/-! ## Repeats -/

theorem Named.target_eq {target' : MakerReconciliationTarget} (h : Named config r target)
    (h' : Named config r target') (hfence : target.fence = target'.fence) : target = target' := by
  obtain ⟨hkey, hfields, hdeal, hdeadline, hticket⟩ := h
  obtain ⟨hkey', hfields', hdeal', hdeadline', hticket'⟩ := h'
  simp only [targetMatches, decide_eq_true_eq] at hfields hfields'
  obtain ⟨-, hintent, hquote, hsell, hsellAmount, hbuy, hbuyAmount, -⟩ := hfields
  obtain ⟨-, hintent', hquote', hsell', hsellAmount', hbuy', hbuyAmount', -⟩ := hfields'
  have hquote := Option.some.inj (hquote.symm.trans hquote')
  have hdeal := Option.some.inj (hdeal.symm.trans hdeal')
  have hdeadline := Option.some.inj (hdeadline.symm.trans hdeadline')
  have hticket := Option.some.inj (hticket.symm.trans hticket')
  obtain ⟨_, _, _, _, _, _, _, _, _, _, _⟩ := target
  obtain ⟨_, _, _, _, _, _, _, _, _, _, _⟩ := target'
  simp only [MakerReconciliationTarget.mk.injEq]
  exact ⟨hkey.symm.trans hkey', hintent.symm.trans hintent', hfence, hquote, hdeal,
    hsell.symm.trans hsell', hsellAmount.symm.trans hsellAmount', hbuy.symm.trans hbuy',
    hbuyAmount.symm.trans hbuyAmount', hdeadline, hticket⟩

/-- Messages of one record with the same binding are the same. -/
theorem Named.input_eq {input' : AuthorityRequest} (h : Named config r input.target)
    (h' : Named config r input'.target) (hbinding : input.binding = input'.binding) :
    input = input' := by
  simp only [AuthorityRequest.binding, Reservation.ReconciliationBinding.mk.injEq] at hbinding
  obtain ⟨hattempt, hdigest, hrevision, houtcome, hfence⟩ := hbinding
  have htarget := h.target_eq h' hfence
  obtain ⟨_, _, _, _, _⟩ := input
  obtain ⟨_, _, _, _, _⟩ := input'
  simp only [AuthorityRequest.mk.injEq]
  exact ⟨htarget, hattempt, hdigest, hrevision, houtcome⟩

/-- A message that the record has already was said before, if it names the transaction that the
record has. -/
theorem Authorised.repeats (h : Authorised config said r) (haddressed : Addressed config r a.input)
    (hrepeat : a.Repeats r) (htransaction : ∀ input transaction, a = .terminal input transaction →
      recordedTransaction r input.outcome = transaction) : said a := by
  have hdraft := haddressed.draft
  cases a with
  | quarantine input reason =>
    obtain ⟨prior, hprior, hbinding, rfl⟩ := hrepeat
    obtain ⟨input', hsaid, hbinding', hnamed⟩ := h.quarantine prior (by rw [hdraft]; exact hprior)
    have hsame : input' = input := hnamed.input_eq haddressed.named (hbinding'.trans hbinding)
    rwa [hsame] at hsaid
  | terminal input transaction =>
    obtain ⟨prior, hprior, hbinding⟩ := hrepeat
    obtain ⟨input', hsaid, hbinding', hnamed⟩ := h.terminal prior (by rw [hdraft]; exact hprior)
    have hsame : input' = input := hnamed.input_eq haddressed.named (hbinding'.trans hbinding)
    have houtcome : prior.binding.outcome = input.outcome :=
      congrArg Reservation.ReconciliationBinding.outcome hbinding
    rwa [hsame, houtcome, htransaction input transaction rfl] at hsaid

theorem known_none : Known said .none := ⟨fun _ _ h => h.elim, fun _ _ h => h.elim⟩

theorem changes_of_pruned (h : pruneRecord now first.normal = .ok r) :
    ReflTransGen (Change config .none) first r := .head (.of_normal first) (pruneRecord_changes h)

/-- Pruning leaves a record that has something of authorities. -/
theorem eq_normal_of_repeats (h : Authorised config said first)
    (hpruned : pruneRecord now first.normal = .ok r) (hrepeat : a.Repeats r) :
    r = first.normal := by
  rcases pruneRecord_ok hpruned with ⟨rfl, -⟩ | ⟨n, command, rfl, ht, -⟩
  · rfl
  · obtain ⟨hq, hterminal⟩ := h.state ht.active
    cases a with
    | quarantine input reason =>
      obtain ⟨prior, hprior, -⟩ := hrepeat
      simp [StoredReservation.normal, hq] at hprior
    | terminal input transaction =>
      obtain ⟨prior, hprior, -⟩ := hrepeat
      simp [StoredReservation.normal, hterminal] at hprior

def NamesTransaction (w : Node) : Step → Prop
  | .act (.reconcile raw hash) _ _ =>
    match canonicalAuthorityRequest "terminal reconciliation" raw with
    | .error _ => True
    | .ok input =>
      ∀ r ∈ w.journal.memory.records.get? input.target.reservationId,
        (r.terminalReconciliation.any fun t =>
          decide (t.binding.authorityRevision = input.authorityRevision)) = true →
        recordedTransaction r input.outcome = namedTransaction input.outcome hash
  | _ => True

theorem NamesTransaction.eq {y : Step} {transaction : Option Text} (h : NamesTransaction w y)
    (hcall : accepted config w y = some (.terminal input transaction))
    (hfirst : w.journal.memory.records.get? input.target.reservationId = some first)
    (hrepeat : (AuthorityCall.terminal input transaction).Repeats first.normal) :
    recordedTransaction first input.outcome = transaction := by
  obtain ⟨op, now, append, m, u, rfl, hm, hcall, -⟩ := accepted_eq_some hcall
  obtain ⟨prior, hprior, hbinding⟩ := hrepeat
  obtain ⟨t, ht, rfl⟩ := Option.map_eq_some_iff.mp hprior
  cases op with
  | reconcile raw hash =>
    obtain ⟨request, hrequest, -⟩ := bind_ok.mp hm
    simp only [ReservationOp.authorityCall, hrequest] at hcall
    cases hcall
    simp only [NamesTransaction, hrequest] at h
    refine h first hfirst ?_
    rw [ht, Option.any_some, decide_eq_true_eq]
    exact congrArg Reservation.ReconciliationBinding.authorityRevision hbinding
  | quarantine raw reason =>
    obtain ⟨request, hrequest, -⟩ := bind_ok.mp hm
    simp only [ReservationOp.authorityCall, hrequest] at hcall
    cases hcall
  | _ => cases hcall

/-! ## Order of the messages -/

/-- After a message was taken in, and as long as no other reservation is made with its id: a
message on the same reservation that is taken in names a higher revision, or it is one that was
said before and leaves the record as it is, if it names the transaction of the record. And when the
first message was terminal, the record keeps its outcome, and no other one is taken in. -/
theorem revisions_increase (config : Config) (before between : List Step) (x : Step)
    (a : AuthorityCall) (hx : accepted config (reached config before) x = some a)
    (hmade : (reached config (before ++ x :: between)).journal.memory.made.count a.reservationId =
      (reached config before).journal.memory.made.count a.reservationId) :
    (∀ y b, accepted config (reached config (before ++ x :: between)) y = some b →
      b.reservationId = a.reservationId →
      NamesTransaction (reached config (before ++ x :: between)) y →
      a.revision < b.revision ∨ Said (before ++ x :: between) b ∧
        ((step config (reached config (before ++ x :: between)) y).journal.memory.records.get?
            a.reservationId).map StoredReservation.normal =
          ((reached config (before ++ x :: between)).journal.memory.records.get?
            a.reservationId).map StoredReservation.normal) ∧ ∀ o, a.terminalOutcome = some o →
        (∀ r, (reached config (before ++ x :: between)).journal.memory.records.get?
            a.reservationId = some r → r.terminalReconciliation.map (·.binding.outcome) = some o) ∧
          ∀ y b, accepted config (reached config (before ++ x :: between)) y = some b →
            b.reservationId = a.reservationId → ∀ p, b.terminalOutcome = some p → p = o := by
  obtain ⟨now, first, r, c, htaken⟩ := accepted_taken hx
  have hrun : reached config (before ++ x :: between) =
      run (step config) (step config (reached config before) x) between := run_append
  have hbase : (step config (reached config before) x).journal.Holds (Since a.reservationId
      ((reached config before).journal.memory.made.count a.reservationId) a.revision
      a.terminalOutcome) := by
    have hmemory : Since a.reservationId
        ((reached config before).journal.memory.made.count a.reservationId) a.revision
        a.terminalOutcome (step config (reached config before) x).journal.memory := by
      refine ⟨by rw [htaken.made], fun _ c' hc' => ?_⟩
      cases htaken.memory.symm.trans hc'
      exact htaken.marked
    have hwritten : Follows config .none (step config (reached config before) x).journal.memory
        (step config (reached config before) x).journal.durable := write_follows htaken.durable
    exact ⟨hmemory, Books.Keeps.follows (fun _ _ hchange h => h.change hchange) hmemory hwritten⟩
  have hsince : Since a.reservationId
      ((reached config before).journal.memory.made.count a.reservationId) a.revision
      a.terminalOutcome (reached config (before ++ x :: between)).journal.memory := by
    rw [hrun]
    exact (since_run between hbase).memory
  have hmarked := hsince.2 hmade
  have hknown := (authorities_reached config (before ++ x :: between)).memory
  refine ⟨fun y b hy hid hnames => ?_, fun o ho => ⟨fun r hr => (hmarked r hr).outcome o ho, ?_⟩⟩
  · obtain ⟨now', first', r', c', htaken'⟩ := accepted_taken hy
    have hfound := htaken'.found
    rw [hid] at hfound
    have hchanges : ReflTransGen (Change config .none) first' r' := changes_of_pruned htaken'.pruned
    rcases htaken'.cases with ⟨rfl, hrepeat⟩ | ⟨hnewer, hsupersedes⟩
    · have hauthorised := hknown a.reservationId first' hfound
      have hsame := eq_normal_of_repeats hauthorised htaken'.pruned hrepeat
      refine Or.inr ⟨?_, ?_⟩
      · refine (hauthorised.changes known_none hchanges).repeats htaken'.addressed
          hrepeat fun input transaction hb => ?_
        subst hb
        rw [hsame] at hrepeat ⊢
        show recordedTransaction first' input.outcome = transaction
        exact hnames.eq hy htaken'.found hrepeat
      · rw [hfound, ← hid, htaken'.memory, hsame]
        exact congrArg some (normal_normal first')
    · exact Or.inl (((hmarked first' hfound).changes hchanges).lt hnewer hsupersedes)
  · intro y b hy hid p hp
    obtain ⟨now', first', r', c', htaken'⟩ := accepted_taken hy
    have hfound := htaken'.found
    rw [hid] at hfound
    have hchanges : ReflTransGen (Change config .none) first' r' := changes_of_pruned htaken'.pruned
    have hr' := (hmarked first' hfound).changes hchanges
    cases b with
    | quarantine input reason => cases hp
    | terminal input transaction =>
      cases hp
      rcases htaken'.cases with ⟨rfl, prior, hprior, hbinding⟩ | ⟨-, hsupersedes⟩
      · have hkept := hr'.outcome o ho
        rw [hprior] at hkept
        have houtcome : prior.binding.outcome = input.outcome :=
          congrArg Reservation.ReconciliationBinding.outcome hbinding
        exact houtcome.symm.trans (Option.some.inj hkept)
      · exact hr'.outcome_eq hsupersedes ho

end

/-! ## A settlement that is repeated -/

namespace Settled

def word (c : Char) : Text := '0' :: 'x' :: List.replicate 64 c

/-- A node without spread, whose digests are constant. -/
def config : Config where
  makerId := "maker".toList
  solverKey := "key".toList
  pool := "starknet:APP20_LOCALNET".toList
  helper := "0x9".toList
  spreadBps := 0
  reservationTtlSeconds := 60
  tokenSymbol _ := none
  commits := false
  digestPrivateRfq _ := word '0'
  digestPrivateRfqV2 _ := word '0'
  canonicalSolverQuote _ := .ok "quote".toList
  canonicalSolverQuoteV2 _ := .ok "quote".toList
  quoteDigest _ := word '8'
  digestSolverQuoteV2 _ _ := .ok (word '8')

def rfq : PrivateRfq where
  version := 1
  domain := privateRfqDomain
  rfqId := word '1'
  intentDigest := word '3'
  chainId := config.pool
  registryRevision := "1".toList
  directoryEpoch := 0
  settlementHelper := config.helper
  sellToken := "0x7".toList
  sellAmountBaseUnits := 60
  buyToken := "0x5".toList
  minBuyAmountBaseUnits := 1
  createdAt := 1
  responseDeadline := 50
  expiresAt := 100

def quote : UnsignedSolverQuote where
  domain := quoteDomain
  pool := config.pool
  helper := config.helper
  sellToken := "0x7".toList
  sellAmount := 60
  buyToken := "0x5".toList
  intentDigest := word '3'
  solverId := config.makerId
  solverKey := config.solverKey
  nonce := word '2'
  reservationId := word '4'
  reservationExpiresAt := 70
  buyAmount := 60
  spreadBps := 0
  pricingProvenance := "source".toList
  quotedAt := 10
  quoteExpiresAt := 60

/-- The reservation is made, signed and selected. -/
def selected : List Step := [ .reserve
    { rfq, rfqDigest := word '0', intentDigest := word '3', expiresAt := 100
      sellToken := "0x7".toList, sellAmount := 60, buyToken := "0x5".toList, minBuyAmount := 1 }
    ⟨.ok (60, "source".toList), .ok 100, word '4', word '2'⟩ 10 .done,
  .act (.signQuote quote "quote".toList (.ok "signature".toList)) 11 .done,
  .act (.select (word '4') (word '3')) 12 .done]

def fill : MakerFillRequest where
  reservationId := word '4'
  intentDigest := word '3'
  fence := 2
  quoteDigest := word '8'
  dealId := "0xd".toList
  sellToken := "0x7".toList
  sellAmount := 60
  buyToken := "0x5".toList
  buyAmount := 60
  deadline := 100
  ticketAddress := "0xe".toList

/-- It is filled. -/
def consumed : List Step :=
  selected ++ [.fill fill (word '6') 13 .done, .invokeFill 0, .answerFill 0 (some "0xa".toList),
    .commitFill 0 .done]

def target : MakerReconciliationTarget where
  reservationId := word '4'
  intentDigest := word '3'
  fence := 2
  quoteDigest := word '8'
  dealId := "0xd".toList
  sellToken := "0x7".toList
  sellAmount := 60
  buyToken := "0x5".toList
  buyAmount := 60
  deadline := 100
  ticketAddress := "0xe".toList

def input (revision : Int) : AuthorityRequest :=
  ⟨target, "attempt".toList, word '9', revision, .settled⟩

/-- The settlement, as an authority says it with a transaction. -/
def settle (revision : Int) (hash : Text) : Step :=
  .act (.reconcile (input revision) (some hash)) 20 .done

def call (revision : Int) (hash : Text) : AuthorityCall := .terminal (input revision) (some hash)

end Settled

open Settled in
instance (w : Node) (revision : Int) (hash : Text) :
    Decidable (NamesTransaction w (settle revision hash)) := by
  unfold settle NamesTransaction
  dsimp only
  split <;> infer_instance

open Settled in
theorem revisions_increase_settled :
    ((call 9 "0xa".toList).revision < (call 10 "0xa".toList).revision ∨
      Said (consumed ++ [settle 9 "0xa".toList]) (call 10 "0xa".toList) ∧
        ((step config (reached config (consumed ++ [settle 9 "0xa".toList]))
            (settle 10 "0xa".toList)).journal.memory.records.get? (word '4')).map
              Reservation.StoredReservation.normal =
          ((reached config (consumed ++ [settle 9 "0xa".toList])).journal.memory.records.get?
            (word '4')).map Reservation.StoredReservation.normal) ∧
      ∀ o, (call 10 "0xa".toList).terminalOutcome = some o → o = .settled := by
  have h := revisions_increase config consumed [] (settle 9 "0xa".toList) (call 9 "0xa".toList)
    (by decide +kernel) (by decide +kernel)
  exact ⟨h.1 (settle 10 "0xa".toList) (call 10 "0xa".toList) (by decide +kernel)
      (by decide +kernel) (by decide +kernel),
    (h.2 .settled (by decide)).2 (settle 10 "0xa".toList) (call 10 "0xa".toList)
      (by decide +kernel) (by decide +kernel)⟩

open Settled in
/-- A settlement of transaction `0xa` is taken in again with `0xb`, under the same revision. -/
theorem repeat_of_other_transaction :
    accepted config (reached config consumed) (settle 9 "0xa".toList) =
        some (call 9 "0xa".toList) ∧
      accepted config (reached config (consumed ++ settle 9 "0xa".toList :: []))
        (settle 9 "0xb".toList) = some (call 9 "0xb".toList) ∧
      ¬ Said (consumed ++ settle 9 "0xa".toList :: []) (call 9 "0xb".toList) := by
  refine ⟨by decide +kernel, by decide +kernel, ?_⟩
  rintro ⟨z, hz, hcall⟩
  revert hcall
  revert z
  decide +kernel

end App20.Maker
