import App20.Maker.RecordRuns

/-!
# Fills

A fill is begun only on a reservation that is selected, and takes it out of that state; no change
of a record brings it back. So the reservations under an id are at least as many as the fills begun
on it and those that can still be begun.

* `fill_at_most_once`: the wallet is asked to fill a reservation at most as often as one was made.
-/

namespace App20.Maker

open App20.Lib App20.Lib.Exec App20.Domain App20.Intents
open App20.Reservation (StoredReservation)
open Relation (ReflTransGen)

variable {config : Config} {powers : Powers} {s t : Books}

/-! ## Fills to come -/

/-- The reservation may still come to be filled. -/
def fillable (r : StoredReservation) : Bool :=
  r.reservation.state = .reserved ∨ r.reservation.state = .selected

theorem Change.fillable {r c : StoredReservation} (h : Change config powers r c)
    (hc : fillable c = true) : fillable r = true := by
  cases h with
  | respelled hreservation _ =>
    unfold Maker.fillable at hc ⊢
    rw [← hreservation]
    exact hc
  | moved ht _ =>
    cases ht.step with
    | select hstate _ _ => simp [Maker.fillable, hstate]
    | release | beginFill | consume | expire | quarantine => simp [Maker.fillable] at hc
  | signed hstate => simp [Maker.fillable, hstate]
  | bound => exact hc
  | quarantined => simp [Maker.fillable, quarantinedReservation] at hc
  | @reconciled input =>
    cases houtcome : input.outcome <;>
      simp [Maker.fillable, reconciledReservation, houtcome] at hc

theorem fillable_of_changes {r c : StoredReservation} (h : ReflTransGen (Change config powers) r c)
    (hc : fillable c = true) : fillable r = true := by
  induction h with
  | refl => exact hc
  | tail _ hchange ih => exact ih (hchange.fillable hc)

/-- The fills that can still be begun on the reservation with an id: one or none. -/
def Books.fillsLeft (b : Books) (id : Text) : Nat :=
  if (b.records.get? id).any fillable then 1 else 0

theorem Books.fillsLeft_le_one (b : Books) (id : Text) : b.fillsLeft id ≤ 1 := by
  unfold fillsLeft
  split <;> omega

theorem Follows.fillsLeft_le (h : Follows config powers s t) (id : Text) :
    t.fillsLeft id ≤ s.fillsLeft id := by
  cases hid : t.records.get? id with
  | none => simp [Books.fillsLeft, hid]
  | some c =>
    obtain ⟨r, hr, hchanges⟩ := h.records id c hid
    have hkept := fillable_of_changes hchanges
    simp only [Books.fillsLeft, hid, hr, Option.any_some]
    by_cases hc : fillable c = true
    · rw [if_pos hc, if_pos (hkept hc)]
    · rw [if_neg hc]
      exact Nat.zero_le _

/-! ## Fills begun -/

/-- The fills begun on the reservation with an id, and those to come, are at most as many as the
reservations that were made with it. -/
def Spent (asked : Text → Nat) (b : Books) : Prop :=
  ∀ id, asked id + b.fillsLeft id ≤ b.made.count id

variable {asked : Text → Nat}

theorem Spent.follows (hs : Spent asked s) (h : Follows config powers s t) : Spent asked t := by
  intro id
  have hle := h.fillsLeft_le id
  have hspent := hs id
  rw [h.made]
  omega

theorem Spent.mono {asked' : Text → Nat} (hs : Spent asked s) (h : ∀ id, asked' id ≤ asked id) :
    Spent asked' s := fun id => le_trans (Nat.add_le_add_right (h id) _) (hs id)

theorem Spent.new (hs : Spent asked s) (r : StoredReservation) :
    Spent asked { s with records := s.records.put r, made := s.made ++ [recordKey r] } := by
  intro id
  have hspent := hs id
  by_cases hid : id = recordKey r
  · have hone := Books.fillsLeft_le_one
      { s with records := s.records.put r, made := s.made ++ [recordKey r] } id
    rw [List.count_append, ← hid, List.count_singleton_self]
    rw [← hid] at hone
    omega
  · have hsame : Books.fillsLeft
        { s with records := s.records.put r, made := s.made ++ [recordKey r] } id =
        s.fillsLeft id := by
      simp only [Books.fillsLeft, Table.get?_put_of_ne hid]
    rw [hsame, List.count_append]
    omega

/-- Beginning a fill uses one of the fills that were left. -/
theorem Spent.begin (config : Config) {request : MakerFillRequest} {attemptId : Text} {now : Int}
    {record : StoredReservation} (hs : Spent asked s)
    (h : Returns (beginFill request attemptId now) s (.begun record) t) :
    Spent (fun id => asked id + if id = recordKey record then 1 else 0) t := by
  obtain ⟨hrevises, hbegun⟩ : Revises config .none s t ∧ _ := beginFill_returns h
  obtain ⟨hfilling, hput, r, p, hp, hr, hselected⟩ := hbegun record rfl
  have ht := hs.follows hrevises.toFollows
  intro id
  by_cases hid : id = recordKey record
  · subst hid
    have hleft : p.fillsLeft (recordKey record) = 1 := by
      simp [Books.fillsLeft, hr, fillable, hselected]
    have hnone : t.fillsLeft (recordKey record) = 0 := by
      simp [Books.fillsLeft, hput, fillable, hfilling]
    have hspent := hs.follows hp.toFollows (recordKey record)
    have hmade : t.made = p.made := hrevises.made.trans hp.made.symm
    rw [hleft] at hspent
    simp only [if_true, hnone, hmade]
    omega
  · have hspent := ht id
    simp only [if_neg hid]
    omega

/-! ## The fills of a node -/

/-- The calls of the wallet that were made, or are about to be. -/
def Node.begun (w : Node) (id : Text) : Nat :=
  w.filled.count id + w.fills.countP fun f => f.phase = .begun ∧ f.reservationId = id

/-- A fill in flight goes on. -/
theorem begun_set {w w' : Node} {i : Nat} {f f' : Fill} (hf : w.fills[i]? = some f)
    (hfilled : w'.filled = w.filled) (hfills : w'.fills = w.fills.set i f')
    (hphase : f'.phase ≠ .begun) (id : Text) : w'.begun id ≤ w.begun id := by
  obtain ⟨hi, rfl⟩ := List.getElem?_eq_some_iff.mp hf
  unfold Node.begun
  rw [hfilled, hfills, List.countP_set hi]
  simp only [hphase, false_and, decide_false, Bool.false_eq_true, if_false]
  omega

theorem invokeFill_begun (w : Node) (i : Nat) (id : Text) :
    (w.invokeFill i).begun id ≤ w.begun id := by
  unfold Node.invokeFill
  split
  · exact le_refl _
  · rename_i f hf
    split
    · rename_i hphase
      obtain ⟨hi, rfl⟩ := List.getElem?_eq_some_iff.mp hf
      have hle := List.boole_getElem_le_countP
        (p := fun f : Fill => decide (f.phase = .begun ∧ f.reservationId = id)) hi
      unfold Node.begun
      dsimp only
      rw [List.countP_set hi, List.count_append, List.count_singleton]
      by_cases hid : w.fills[i].reservationId = id
      · simp only [hphase, hid, beq_self_eq_true, and_self, decide_true, if_true] at hle ⊢
        simp only [reduceCtorEq, false_and, decide_false, Bool.false_eq_true, if_false]
        omega
      · simp only [hid, beq_iff_eq, and_false, decide_false, Bool.false_eq_true, if_false]
        omega
    · exact le_refl _

/-- Only a transaction of `fill` begins one. -/
theorem begun_step {w : Node} (x : Step) (id : Text)
    (hx : ∀ request attemptId now append, x ≠ .fill request attemptId now append) :
    (step config w x).begun id ≤ w.begun id := by
  cases x with
  | restart =>
    show w.filled.count id + 0 ≤ w.begun id
    exact Nat.add_le_add_left (Nat.zero_le _) _
  | fill request attemptId now append => exact absurd rfl (hx request attemptId now append)
  | invokeFill i => exact invokeFill_begun w i id
  | answerFill i answer =>
    show (w.answerFill i answer).begun id ≤ _
    unfold Node.answerFill
    split
    · exact le_refl _
    · rename_i f hf
      split
      · exact begun_set hf (by rfl) (by rfl) (by simp) id
      · exact begun_set hf (by rfl) (by rfl) (by simp) id
      · exact le_refl _
  | commitFill i append =>
    show (w.commitFill i append).begun id ≤ _
    unfold Node.commitFill
    split
    · exact le_refl _
    · rename_i f hf
      split
      · split
        · exact begun_set hf (by rfl) (by rfl) (by simp) id
        · exact begun_set hf (by rfl) (by rfl) (by simp) id
      · exact begun_set hf (by rfl) (by rfl) (by simp) id
      · exact le_refl _
  | reserve request answers now append =>
    show (w.reserve config request answers now append).begun id ≤ _
    unfold Node.reserve
    split <;> exact le_refl _
  | act op now append =>
    show (w.act config op now append).begun id ≤ _
    unfold Node.act
    split <;> exact le_refl _
  | quote rfq answers now append =>
    show (w.quote config rfq answers now append).begun id ≤ _
    unfold Node.quote
    split
    · exact le_refl _
    · exact le_refl _
    · split <;> exact le_refl _
  | settleExpired now =>
    show (w.settleExpired now).begun id ≤ _
    unfold Node.settleExpired
    split <;> exact le_refl _
  | recover now append =>
    show (w.recover now append).begun id ≤ _
    unfold Node.recover
    split
    · exact le_refl _
    · split <;> exact le_refl _
  | resolve lockId reason now =>
    show (w.resolve lockId reason now).begun id ≤ _
    unfold Node.resolve
    split <;> exact le_refl _
  | reconcileLock input now =>
    show (w.reconcileLock input now).begun id ≤ _
    unfold Node.reconcileLock
    split <;> exact le_refl _
  | advance i =>
    show (w.advance i).begun id ≤ _
    unfold Node.advance
    split <;> exact le_refl _
  | answer i a =>
    show (w.answer i a).begun id ≤ _
    unfold Node.answer
    split
    · exact le_refl _
    · rename_i f _
      obtain ⟨outstanding, hlearn⟩ := w.learn_eq f a
      rw [hlearn]
      exact le_refl _
  | hand i =>
    show (w.hand i).begun id ≤ _
    unfold Node.hand
    split
    · exact le_refl _
    · split <;> exact le_refl _
  | commit i append =>
    show (w.commit i append).begun id ≤ _
    unfold Node.commit
    split
    · exact le_refl _
    · rename_i f _
      split
      · rename_i tx after _
        obtain ⟨outstanding, hlearn⟩ := w.learnCommitted_eq f tx
          (lockTransaction (tx.draft f.lockId f.now) append w.journal).1
        dsimp only
        rw [hlearn]
        exact le_refl _
      · exact le_refl _

theorem spent_fill (config : Config) {w : Node} {request : MakerFillRequest} {attemptId : Text}
    {now : Int} {append : Append} (h : w.journal.Holds (Spent w.begun)) :
    (w.fill request attemptId now append).journal.Holds
      (Spent (w.fill request attemptId now append).begun) := by
  unfold Node.fill
  split
  · exact h
  · split
    · rename_i record j hbegun
      obtain ⟨records, u, v, hrecords, hbody, hclone, hmemory, hwritten, -⟩ := transaction_ok hbegun
      have hdraft : Revises config .none w.journal.memory { w.journal.memory with records } :=
        cloneRecords_revises hrecords
      have hlocks : Follows config .none u v := withLocks_follows hclone
      have hnext : Follows config .none v j.memory := by
        rw [hmemory]
        exact Follows.of_records rfl rfl
      have hdurable : Follows config .none j.memory j.durable := write_follows hwritten
      have hu := (h.memory.follows hdraft.toFollows).begin config hbody
      have hj := hu.follows (hlocks.trans hnext)
      have hcount : ∀ id, ({ w with
          journal := j
          fills := w.fills ++ [⟨request, record.reservation.reservationId, now, .begun⟩] } :
          Node).begun id = w.begun id + if id = recordKey record then 1 else 0 := by
        intro id
        unfold Node.begun
        rw [List.countP_append, List.countP_singleton, ← Nat.add_assoc]
        by_cases hid : id = recordKey record
        · simp [hid, recordKey]
        · have hne : record.reservation.reservationId ≠ id := fun h => hid h.symm
          simp [hid, hne]
      exact ⟨hj.mono fun id => le_of_eq (hcount id),
        (hj.follows hdurable).mono fun id => le_of_eq (hcount id)⟩
    · rename_i res j _ hbegun
      have hkept : (transaction (beginFill request attemptId now) append w.journal).2.Holds
          (Spent w.begun) :=
        transaction_holds h (fun s t (ht : Follows config .none s t) hs => hs.follows ht) (by
          intro s a t _ hreturns hs
          have hrevises : Revises config .none s t := (beginFill_returns hreturns).1
          exact hs.follows hrevises.toFollows)
      rw [hbegun] at hkept
      exact hkept

/-- After any steps no more fills are begun than reservations were made. -/
theorem spent_reached (config : Config) (steps : List Step) :
    (reached config steps).journal.Holds (Spent (reached config steps).begun) := by
  refine run_invariant (I := fun w : Node => w.journal.Holds (Spent w.begun)) (fun w x h => ?_) steps
    ⟨fun id => ?_, fun id => ?_⟩
  · by_cases hx : ∃ request attemptId now append, x = .fill request attemptId now append
    · obtain ⟨request, attemptId, now, append, rfl⟩ := hx
      exact spent_fill config h
    · have hle : ∀ id, (step config w x).begun id ≤ w.begun id := fun id =>
        begun_step x id fun request attemptId now append heq =>
          hx ⟨request, attemptId, now, append, heq⟩
      have hkept : (step config w x).journal.Holds (Spent w.begun) :=
        step_holds x h (fun s t ht hs => Spent.follows hs ht) fun s r _ hs => Spent.new hs r
      exact ⟨hkept.memory.mono hle, hkept.durable.mono hle⟩
  · exact le_refl _
  · exact le_refl _

/-- Over any interleaving of operations, with stops and restarts anywhere, the wallet is asked to
fill the reservation with an id at most as often as a reservation was made under that id. -/
theorem fill_at_most_once (config : Config) (steps : List Step) (id : Text) :
    (reached config steps).filled.count id ≤
      (reached config steps).journal.durable.made.count id := by
  have hspent := (spent_reached config steps).durable id
  have hfilled : (reached config steps).filled.count id ≤ (reached config steps).begun id :=
    Nat.le_add_right _ _
  omega

end App20.Maker
