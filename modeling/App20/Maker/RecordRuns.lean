import App20.Maker.Node
import App20.Maker.Revisions

/-!
# Records over a run

What holds of the records in memory and in the journal after any steps.

* `step_holds`: what the changes of single records keep, and a new record keeps, every step keeps.
-/

namespace App20.Maker

open App20.Lib App20.Lib.Exec App20.Domain App20.Intents
open App20.Reservation (StoredReservation QuarantineReason Transitioned)
open Relation (ReflTransGen)

variable {config : Config} {s t : Books} {now : Int}

/-! ## Programs -/

theorem canonicalReconciliationTarget_again {input target : MakerReconciliationTarget}
    (h : canonicalReconciliationTarget input = .ok target) :
    canonicalReconciliationTarget target = .ok target := by
  simp only [canonicalReconciliationTarget, bind_ok, pure_ok] at h
  obtain ⟨_, hid, _, hintent, _, hfence, _, hquote, _, hdeal, _, hsell, _, hsellAmount, _, hbuy, _,
    hbuyAmount, _, hdeadline, _, hticket, rfl⟩ := h
  simp only [canonicalReconciliationTarget, bind_ok, pure_ok]
  exact ⟨_, requireHex32_again hid, _, requireHex32_again hintent, _, requireFrom_again hfence,
    _, requireHex32_again hquote, _, requireFeltText_again hdeal, _, requireFeltText_again hsell,
    _, requireFrom_again hsellAmount, _, requireFeltText_again hbuy,
    _, requireFrom_again hbuyAmount, _, requireSafe_again hdeadline,
    _, requireFeltText_again hticket, rfl⟩

theorem canonicalAuthorityRequest_target {label : String} {input request : AuthorityRequest}
    (h : canonicalAuthorityRequest label input = .ok request) :
    canonicalReconciliationTarget request.target = .ok request.target := by
  simp only [canonicalAuthorityRequest, bind_ok, pure_ok] at h
  obtain ⟨target, htarget, _, -, _, -, _, -, rfl⟩ := h
  exact canonicalReconciliationTarget_again htarget

theorem returns_discard {α : Type} {m : BooksM α} {u : Unit} (h : Returns (discard m) s u t) :
    ∃ a, Returns m s a t := by
  obtain ⟨a, v, hm, h⟩ := returns_bind.mp h
  obtain ⟨-, rfl⟩ := returns_pure.mp h
  exact ⟨a, hm⟩

/-- A transaction that is done leaves the same without its result. -/
theorem transaction_discard {α : Type} {m : BooksM α} {append : Append} {j j' : Journal Books}
    {a : α} (h : transaction m append j = (.ok a, j')) :
    transaction (discard m) append j = (.ok (), j') := by
  refine Journal.transact_map h fun s t hreturns => ?_
  obtain ⟨u, v, hm, hclone, ht⟩ := returns_committing.mp hreturns
  exact returns_committing.mpr ⟨u, v, returns_bind.mpr ⟨a, u, hm, returns_pure.mpr ⟨rfl, rfl⟩⟩,
    hclone, ht⟩

/-- What an operation takes in of an authority: the canonical form of its message. -/
def ReservationOp.powers (op : ReservationOp) : Powers where
  quarantines input reason := ∃ raw, op = .quarantine raw reason ∧
    canonicalAuthorityRequest "authority quarantine" raw = .ok input
  reconciles input hash := ∃ raw, op = .reconcile raw hash ∧
    canonicalAuthorityRequest "terminal reconciliation" raw = .ok input

theorem program_revises {op : ReservationOp} {m : BooksM Unit} {u : Unit}
    (hm : op.program config now = .ok m) (hs : IsDraft s) (h : Returns m s u t) :
    Revises config op.powers s t := by
  cases op with
  | signQuote quote canonical signer =>
    obtain ⟨_, -, hm⟩ := bind_ok.mp hm
    cases hm
    obtain ⟨a, h⟩ := returns_discard h
    exact signQuote_revises h
  | signQuoteV2 quote canonical signer =>
    obtain ⟨_, -, hm⟩ := bind_ok.mp hm
    cases hm
    obtain ⟨a, h⟩ := returns_discard h
    exact signQuoteV2_revises h
  | select reservationId intentDigest =>
    cases hm
    obtain ⟨a, h⟩ := returns_discard h
    exact (select_returns h).1
  | release reservationId reason =>
    cases hm
    obtain ⟨a, h⟩ := returns_discard h
    exact release_revises h
  | bind target =>
    obtain ⟨target, -, hm⟩ := bind_ok.mp hm
    obtain ⟨_, -, hm⟩ := bind_ok.mp hm
    cases hm
    obtain ⟨a, h⟩ := returns_discard h
    exact bindSettlement_revises h
  | read target =>
    obtain ⟨target, -, hm⟩ := bind_ok.mp hm
    obtain ⟨_, -, hm⟩ := bind_ok.mp hm
    cases hm
    obtain ⟨a, h⟩ := returns_discard h
    exact readSnapshot_revises h
  | quarantine input reason =>
    obtain ⟨request, hrequest, hm⟩ := bind_ok.mp hm
    obtain ⟨_, -, hm⟩ := bind_ok.mp hm
    cases hm
    obtain ⟨a, h⟩ := returns_discard h
    exact quarantineForAuthority_revises hs (canonicalAuthorityRequest_target hrequest)
      ⟨input, rfl, hrequest⟩ h
  | reconcile input hash =>
    obtain ⟨request, hrequest, hm⟩ := bind_ok.mp hm
    obtain ⟨_, -, hm⟩ := bind_ok.mp hm
    cases hm
    obtain ⟨a, h⟩ := returns_discard h
    exact reconcileTerminal_revises hs (canonicalAuthorityRequest_target hrequest)
      ⟨input, rfl, hrequest⟩ h

/-- The first transaction of `quoteV3` leaves the reservations alone. -/
theorem acquireLock_follows {powers : Powers} {rfq : PrivateRfqV2} {rfqDigest : Text}
    {answers : QuoteAnswers} {a : Acquisition} (h : Returns (acquireLock config rfq rfqDigest
      answers now) s a t) :
    Follows config powers s t := by
  rcases acquireLock_returns h with rfl | ⟨record, balance, rfl⟩
  · exact Follows.of_records rfl rfl
  · rw [(acquireLock_acquired h).1]
    exact Follows.of_records rfl rfl

/-- A transaction on a lock leaves the reservations alone. -/
theorem draft_follows {powers : Powers} {tx : LockTx} {lockId : Text} {a : Option StoredLock}
    (h : Returns (tx.draft lockId now) s a t) : Follows config powers s t := by
  unfold LockTx.draft at h
  rw [returns_get_bind] at h
  obtain ⟨write, -, h⟩ := returns_lift_bind.mp h
  cases h
  exact Follows.of_records rfl rfl

/-! ## Steps -/

/-- What a step takes in of an authority. -/
def Step.powers : Step → Powers
  | .act op _ _ => op.powers
  | _ => .none

variable {P : Books → Prop} {w : Node}

theorem step_holds (x : Step) (h : w.journal.Holds P)
    (hP : ∀ s t, Follows config x.powers s t → P s → P t) (hnew : ∀ s r, IsNew r → P s →
      P { s with records := s.records.put r, made := s.made ++ [recordKey r] }) :
    (step config w x).journal.Holds P := by
  cases x with
  | restart => exact Journal.Holds.reopen h fun s t hread => hP s t (read_follows hread)
  | reserve request answers now append =>
    show (w.reserve config request answers now append).journal.Holds P
    unfold Node.reserve
    split
    · exact h
    · refine transaction_holds h hP fun s a t _ hreturns hs => ?_
      obtain ⟨p, hrevises, ht⟩ := reserveDraft_returns hreturns
      have hp := hP s p hrevises.toFollows hs
      rcases ht with rfl | ⟨r, hr, rfl⟩
      · exact hp
      · exact hnew p r hr hp
  | act op now append =>
    show (w.act config op now append).journal.Holds P
    unfold Node.act
    split
    · exact h
    · rename_i m hm
      refine transaction_holds h hP fun s a t hs hreturns => ?_
      exact hP s t (program_revises hm hs hreturns).toFollows
  | fill request attemptId now append =>
    show (w.fill request attemptId now append).journal.Holds P
    rcases Node.fill_journal with hj | hj <;> rw [hj]
    · exact h
    · exact transaction_holds h hP fun s a t _ hreturns =>
        hP s t (beginFill_returns hreturns).1.toFollows
  | invokeFill i =>
    show (w.invokeFill i).journal.Holds P
    rw [Node.invokeFill_journal]
    exact h
  | answerFill i answer =>
    show (w.answerFill i answer).journal.Holds P
    rw [Node.answerFill_journal]
    exact h
  | commitFill i append =>
    show (w.commitFill i append).journal.Holds P
    rcases Node.commitFill_journal with hj | ⟨f, ⟨transactionHash, hj⟩ | hj⟩ <;> rw [hj]
    · exact h
    · exact transaction_holds h hP fun s a t _ hreturns =>
        hP s t (completeFill_revises hreturns).toFollows
    · exact transaction_holds h hP fun s a t _ hreturns =>
        hP s t (failFill_revises hreturns).toFollows
  | quote rfq answers now append =>
    show (w.quote config rfq answers now append).journal.Holds P
    rcases Node.quote_journal with hj | ⟨rfqDigest, hj⟩ <;> rw [hj]
    · exact h
    · exact lockTransaction_holds h hP fun s a t hreturns => hP s t (acquireLock_follows hreturns)
  | settleExpired now =>
    show (w.settleExpired now).journal.Holds P
    rw [Node.settleExpired_journal]
    exact h
  | recover now append =>
    show (w.recover now append).journal.Holds P
    rcases Node.recover_journal with hj | hj <;> rw [hj]
    · exact h
    · exact transaction_holds h hP fun s a t _ hreturns =>
        hP s t (recoverDraft_revises hreturns).toFollows
  | resolve lockId reason now =>
    show (w.resolve lockId reason now).journal.Holds P
    rw [Node.resolve_journal]
    exact h
  | reconcileLock input now =>
    show (w.reconcileLock input now).journal.Holds P
    rw [Node.reconcileLock_journal]
    exact h
  | advance i =>
    show (w.advance i).journal.Holds P
    rw [Node.advance_journal]
    exact h
  | answer i a =>
    show (w.answer i a).journal.Holds P
    rw [Node.answer_journal]
    exact h
  | hand i =>
    show (w.hand i).journal.Holds P
    rw [Node.hand_journal]
    exact h
  | commit i append =>
    show (w.commit i append).journal.Holds P
    rcases Node.commit_journal with hj | ⟨f, tx, after, -, -, hj⟩ <;> rw [hj]
    · exact h
    · exact lockTransaction_holds h hP fun s a t hreturns => hP s t (draft_follows hreturns)

/-! ## Records -/

/-- Every record is so. -/
def Books.Each (P : StoredReservation → Prop) (b : Books) : Prop :=
  ∀ id r, b.records.get? id = some r → P r

theorem Books.Each.follows {P : StoredReservation → Prop} {powers : Powers}
    (hchange : ∀ r c, Change config powers r c → P r → P c) (hs : s.Each P)
    (hst : Follows config powers s t) : t.Each P := by
  intro id c hc
  obtain ⟨r, hr, hchanges⟩ := hst.records id c hc
  clear hc
  induction hchanges with
  | refl => exact hs id r hr
  | tail _ hlast ih => exact hchange _ _ hlast ih

theorem Books.Each.put {P : StoredReservation → Prop} {made : List Text} (hs : s.Each P)
    {r : StoredReservation} (hr : P r) :
    Books.Each P { s with records := s.records.put r, made } := by
  intro id c hc
  by_cases hid : id = recordKey r
  · subst hid
    cases Table.get?_put_self.symm.trans hc
    exact hr
  · rw [Table.get?_put_of_ne hid] at hc
    exact hs id c hc

def Books.Keeps (P : StoredReservation → Prop) (id : Text) (made : Nat) (b : Books) : Prop :=
  made ≤ b.made.count id ∧ (b.made.count id = made → ∀ r, b.records.get? id = some r → P r)

variable {id : Text} {made : Nat}

section

variable {P : StoredReservation → Prop}

theorem Books.Keeps.follows {powers : Powers}
    (hchange : ∀ r c, Change config powers r c → P r → P c) (hs : s.Keeps P id made)
    (hst : Follows config powers s t) : t.Keeps P id made := by
  unfold Books.Keeps
  rw [hst.made]
  refine ⟨hs.1, fun hcount c hc => ?_⟩
  obtain ⟨r, hr, hchanges⟩ := hst.records id c hc
  clear hc
  induction hchanges with
  | refl => exact hs.2 hcount r hr
  | tail _ hlast ih => exact hchange _ _ hlast ih

theorem Books.Keeps.new (hs : s.Keeps P id made) (r : StoredReservation) :
    Books.Keeps P id made
      { s with records := s.records.put r, made := s.made ++ [recordKey r] } := by
  unfold Books.Keeps
  dsimp only
  rw [List.count_append]
  refine ⟨hs.1.trans (Nat.le_add_right _ _), fun hcount c hc => ?_⟩
  have hle := hs.1
  by_cases hid : id = recordKey r
  · rw [← hid, List.count_singleton_self] at hcount
    omega
  · rw [Table.get?_put_of_ne hid] at hc
    exact hs.2 (by omega) c hc

theorem keeps_run (hchange : ∀ powers r c, Change config powers r c → P r → P c) (steps : List Step)
    (h : w.journal.Holds (Books.Keeps P id made)) :
    (run (step config) w steps).journal.Holds (Books.Keeps P id made) :=
  run_invariant (I := fun w : Node => w.journal.Holds (Books.Keeps P id made))
    (fun _ x h => step_holds x h (fun _ _ hst hs => hs.follows (hchange _) hst)
      fun _ r _ hs => hs.new r) steps h

/-- What every change of a record keeps and a new record has, every record has after any steps. -/
theorem each_reached (hchange : ∀ powers r c, Change config powers r c → P r → P c)
    (hnew : ∀ r, IsNew r → P r) (steps : List Step) :
    (reached config steps).journal.Holds (Books.Each P) := by
  have hempty : Books.empty.Each P := fun _ _ h => by cases h
  exact run_invariant (I := fun w : Node => w.journal.Holds (Books.Each P))
    (fun w x h => step_holds x h (fun _ _ hst hs => hs.follows (hchange x.powers) hst)
      fun _ r hr hs => hs.put (hnew r hr)) steps ⟨hempty, hempty⟩

end

end App20.Maker
