import App20.Reservation.Effects

/-!
# Value-moving attempts

The table of attempts against the records. An attempt is made of a selected reservation and no
reservation becomes selected again, so there is at most one; once it is completed its row stays
as it is. A pending attempt and a filling record belong together as long as no commit quarantines
a reservation that is being filled.
-/

namespace App20.Reservation

open App20.Lib App20.Lib.Exec App20.Domain

/-! ## Answers -/

section Answers

variable {db t : Database} {r : Request} {answer : Answer} {e : LedgerError}

theorem answered (h : Returns (execute r) db answer t) :
    respond db r false = .ok answer ∧ step db (.request r false) = t := by
  have hrun : (execute r).run db = .ok (answer, t) := h
  simp [respond, step, hrun]

theorem refused (h : Fails (execute r) db e) :
    respond db r false = .error (some e) ∧ step db (.request r false) = db := by
  have hrun : (execute r).run db = .error e := h
  simp [respond, step, hrun]

theorem returns_of_respond (h : respond db r false = .ok answer) :
    Returns (execute r) db answer (step db (.request r false)) := by
  rcases returns_or_fails (execute r) db with ⟨answer', t, hreturns⟩ | ⟨e, hfails⟩
  · obtain ⟨hanswer, hstep⟩ := answered hreturns
    rw [hanswer] at h
    cases h
    rw [hstep]
    exact hreturns
  · rw [(refused hfails).1] at h
    cases h

theorem fails_of_respond (h : respond db r false = .error (some e)) : Fails (execute r) db e := by
  rcases returns_or_fails (execute r) db with ⟨answer', t, hreturns⟩ | ⟨e', hfails⟩
  · rw [(answered hreturns).1] at h
    cases h
  · rw [(refused hfails).1] at h
    cases h
    exact hfails

end Answers

/-! ## One attempt for each reservation -/

/-- What a reservation is after its attempt was claimed. -/
def Tried (s : ReservationState) : Prop := s = .filling ∨ s = .consumed ∨ s = .quarantined

structure AttemptsSound (db : Database) : Prop where
  one : (db.attempts.map AttemptRow.reservationId).Nodup
  tried : ∀ a ∈ db.attempts, ∃ r, db.records a.reservationId = some r ∧ Tried r.reservation.state

section Tables

variable {db : Database} {next : StoredReservation} {key : Text} {outcome : AttemptOutcome}

theorem reservationIds_settle : (db.settle key outcome).attempts.map AttemptRow.reservationId =
    db.attempts.map AttemptRow.reservationId := by
  simp only [Database.settle, List.map_map]
  apply List.map_congr_left
  intro a _
  simp only [Function.comp_apply]
  split <;> rfl

/-- A version is stored that keeps a tried reservation tried. -/
theorem AttemptsSound.write (h : AttemptsSound db)
    (hnext : ∀ current, db.records next.reservation.reservationId = some current →
      Tried current.reservation.state → Tried next.reservation.state) :
    AttemptsSound (db.write next) := by
  refine ⟨h.one, ?_⟩
  intro a ha
  obtain ⟨r, hr, htried⟩ := h.tried a ha
  by_cases hid : a.reservationId = next.reservation.reservationId
  · rw [hid] at hr ⊢
    exact ⟨next, records_write_self, hnext r hr htried⟩
  · exact ⟨r, by rw [records_write_of_ne hid]; exact hr, htried⟩

theorem AttemptsSound.settle (h : AttemptsSound db) : AttemptsSound (db.settle key outcome) := by
  refine ⟨by rw [reservationIds_settle]; exact h.one, ?_⟩
  intro a ha
  rcases mem_settle.mp ha with ⟨hmem, -⟩ | ⟨b, hb, -, rfl⟩
  · exact h.tried a hmem
  · exact h.tried b hb

theorem Revised.tried {r n : MakerReservation} (h : Revised r n) (htried : Tried r.state) :
    Tried n.state := by
  rcases h.states with ⟨hstate, -⟩ | ⟨hstate, -⟩ | ⟨hstate, -⟩ | hstate
  · rcases htried with h' | h' | h' <;> rw [hstate] at h' <;> cases h'
  · -- what is tried and not filling is terminal
    rcases htried with h' | h' | h'
    · exact absurd h' hstate
    · exact absurd (Or.inr (Or.inl h')) h.active
    · exact absurd (Or.inr (Or.inr (Or.inr h'))) h.active
  · rcases htried with h' | h' | h' <;> rw [hstate] at h' <;> cases h'
  · exact Or.inr (Or.inr hstate)

theorem Transitioned.selected {r n : MakerReservation} {fence time : Int} {attemptId : Text}
    (h : Transitioned r (.beginFill fence time attemptId) n) :
    r.state = .selected ∧ n.state = .filling := by
  cases h.step with
  | beginFill state _ _ => exact ⟨state, rfl⟩

theorem Transitioned.ended {r n : MakerReservation} {fence time : Int}
    (h : Transitioned r (outcome.command fence time) n) :
    n.state = .consumed ∨ n.state = .quarantined := by
  cases outcome with
  | consumed hash =>
    cases h.step
    exact Or.inl rfl
  | unknown reason =>
    cases h.step
    exact Or.inr rfl

/-- A version that a transition leads to is stored in place of the one it starts from. -/
theorem Sound.transition_id {id : Text} {current : StoredReservation} {c : ReservationCommand}
    {n : MakerReservation} (hs : Sound db) (hstored : db.records id = some current)
    (h : Transitioned current.reservation c n) : n.reservationId = id := by
  rw [← h.step.same.reservationId]
  exact hs.key id current hstored

end Tables

theorem AttemptsSound.effect {Q : Option ReservationState → ReservationState → Prop} {db db' : Database}
    (hs : Sound db) (h : Effect Q db db') (ha : AttemptsSound db) : AttemptsSound db' := by
  cases h with
  | create _ fresh _ _ _ _ _ =>
    apply ha.write
    intro current hcurrent
    rw [fresh] at hcurrent
    cases hcurrent
  | revise stored revised _ _ _ =>
    apply ha.write
    intro current hcurrent
    rw [stored] at hcurrent
    cases hcurrent
    exact revised.tried
  | @claim current n attempt time stored _ _ step _ =>
    obtain ⟨hselected, hfilling⟩ := step.selected
    have hid := hs.transition_id stored step
    have hw : AttemptsSound (db.write { current with reservation := n }) := by
      apply ha.write
      intro _ _ _
      exact Or.inl hfilling
    refine ⟨?_, ?_⟩
    · -- an earlier attempt of the reservation would have left it tried
      change ((db.attempts ++ [attempt]).map AttemptRow.reservationId).Nodup
      rw [List.map_append, List.map_singleton]
      apply List.Nodup.append ha.one (List.nodup_singleton _)
      rw [List.disjoint_singleton]
      intro hmem
      obtain ⟨a, hamem, heq⟩ := List.mem_map.mp hmem
      obtain ⟨r, hr, htried⟩ := ha.tried a hamem
      rw [heq, stored] at hr
      cases hr
      rcases htried with h' | h' | h' <;> rw [hselected] at h' <;> cases h'
    · intro a hmem
      rcases List.mem_append.mp hmem with hmem | hmem
      · exact hw.tried a hmem
      · rw [List.mem_singleton.mp hmem, ← hid]
        have hself : (db.write { current with reservation := n }).records n.reservationId =
            some { current with reservation := n } := records_write_self
        exact ⟨_, hself, Or.inl hfilling⟩
  | finish _ _ _ _ _ step =>
    apply AttemptsSound.settle
    apply ha.write
    intro _ _ _
    exact Or.inr step.ended

/-! ## What stays of an attempt -/

/-- A later row of an attempt: the binding is the same, and a completed row is as it was. -/
structure AttemptRow.Continues (b a : AttemptRow) : Prop where
  key : b.idempotencyKey = a.idempotencyKey
  reservationId : b.reservationId = a.reservationId
  selectionFence : b.selectionFence = a.selectionFence
  payloadDigest : b.payloadDigest = a.payloadDigest
  completed : a.status = .completed → b = a

theorem AttemptRow.Continues.refl (a : AttemptRow) : a.Continues a :=
  ⟨rfl, rfl, rfl, rfl, fun _ => rfl⟩

theorem AttemptRow.Continues.trans {a b c : AttemptRow} (h : b.Continues a) (h' : c.Continues b) :
    c.Continues a := by
  refine ⟨h'.key.trans h.key, h'.reservationId.trans h.reservationId,
    h'.selectionFence.trans h.selectionFence, h'.payloadDigest.trans h.payloadDigest, ?_⟩
  intro hcompleted
  have heq := h.completed hcompleted
  subst heq
  exact h'.completed hcompleted

theorem Sound.unique {db : Database} (hs : Sound db) {a b : AttemptRow} (ha : a ∈ db.attempts)
    (hb : b ∈ db.attempts) (hkey : a.idempotencyKey = b.idempotencyKey) : a = b :=
  List.inj_on_of_nodup_map hs.keys ha hb hkey

theorem Effect.continues {Q : Option ReservationState → ReservationState → Prop} {db db' : Database}
    (hs : Sound db) (h : Effect Q db db') {a : AttemptRow} (ha : a ∈ db.attempts) :
    ∃ b ∈ db'.attempts, b.Continues a := by
  cases h with
  | create | revise => exact ⟨a, ha, .refl a⟩
  | claim _ _ _ _ _ => exact ⟨a, List.mem_append_left _ ha, .refl a⟩
  | @finish current n attempt outcome time _ claimed pending _ _ _ =>
    by_cases hkey : a.idempotencyKey = attempt.idempotencyKey
    · refine ⟨a.complete outcome, mem_settle.mpr (Or.inr ⟨a, ha, hkey, rfl⟩), rfl, rfl, rfl, rfl, ?_⟩
      intro hcompleted
      rw [hs.unique ha claimed hkey, pending] at hcompleted
      cases hcompleted
    · exact ⟨a, mem_settle.mpr (Or.inl ⟨ha, hkey⟩), .refl a⟩

/-- An attempt is never forgotten. -/
theorem run_continues {db : Database} (hs : Sound db) {a : AttemptRow} (ha : a ∈ db.attempts)
    (steps : List Step) : ∃ b ∈ (run step db steps).attempts, b.Continues a := by
  refine (run_keeps (I := fun db => ∃ b ∈ db.attempts, b.Continues a) (fun _ h => h) ?_
    (along_allowed db steps) hs ⟨a, ha, .refl a⟩).2
  rintro db1 db2 hs1 heffect ⟨b, hb, hba⟩
  obtain ⟨c, hc, hcb⟩ := heffect.continues hs1 hb
  exact ⟨c, hc, hba.trans hcb⟩

/-! ## Replays -/

section Replays

variable {db : Database} {body : Json} {input : AttemptBinding} {a : AttemptRow}

theorem find_attempt (hs : Sound db) (hmem : a ∈ db.attempts)
    (hkey : a.idempotencyKey = input.idempotencyKey) :
    db.attempts.find? (fun row => row.idempotencyKey = input.idempotencyKey) = some a := by
  cases hfind : db.attempts.find? fun row => row.idempotencyKey = input.idempotencyKey with
  | none => exact absurd hkey (find_key_none hfind a hmem)
  | some b =>
    obtain ⟨hb, hbkey⟩ := find_key hfind
    rw [hs.unique hmem hb (hkey.trans hbkey.symm)]

theorem begin_replays {outcome : AttemptOutcome} (hs : Sound db)
    (hinput : requireAttempt body = .ok input) (hprior : Prior db input a)
    (hcompleted : a.status = .completed) (houtcome : a.outcome = some outcome) :
    Returns (execute (.begin body)) db (.replay outcome) db := by
  change Returns (beginAttempt body) db _ db
  simp only [beginAttempt, returns_lift_bind, returns_attemptRow_bind]
  refine ⟨input, hinput, ?_⟩
  rw [find_attempt hs hprior.mem hprior.key]
  simp only [returns_assert_bind, hcompleted, houtcome]
  exact ⟨hprior.binds, returns_pure.mpr ⟨rfl, rfl⟩⟩

theorem complete_replays {outcome : AttemptOutcome} {reported : ReportedOutcome} (hs : Sound db)
    (hinput : requireAttempt body = .ok input) (hreported : reportedOutcome body = .ok reported)
    (hprior : Prior db input a) (hcompleted : a.status = .completed)
    (houtcome : a.outcome = some outcome) :
    Returns (execute (.complete body)) db (.replay outcome) db := by
  change Returns (completeAttempt body) db _ db
  simp only [completeAttempt, returns_lift_bind, returns_attemptRow_bind, returns_expect_bind,
    returns_assert_bind]
  refine ⟨input, hinput, reported, hreported, a, find_attempt hs hprior.mem hprior.key,
    hprior.binds, ?_⟩
  simp only [hcompleted, houtcome]
  exact returns_pure.mpr ⟨rfl, rfl⟩

def Answer.outcome : Answer → Option AttemptOutcome
  | .replay outcome | .completed outcome _ => some outcome
  | .committed _ | .claimed _ | .recovered _ => none

theorem settled_row {r : StoredReservation} {outcome : AttemptOutcome} (hprior : Prior db input a) :
    ∃ b ∈ ((db.write r).settle input.idempotencyKey outcome).attempts,
      b.idempotencyKey = input.idempotencyKey ∧ b.Binds input ∧ b.status = .completed ∧
        b.outcome = some outcome :=
  ⟨a.complete outcome, mem_settle.mpr (Or.inr ⟨a, hprior.mem, hprior.key, rfl⟩), hprior.key,
    hprior.binds, rfl, rfl⟩

def Request.IsAttempt (r : Request) (body : Json) : Prop := r = .begin body ∨ r = .complete body

theorem told_is_recorded {r : Request} {answer : Answer} {outcome : AttemptOutcome} {t : Database}
    (hs : Sound db) (hr : r.IsAttempt body) (hinput : requireAttempt body = .ok input)
    (h : Returns (execute r) db answer t) (houtcome : answer.outcome = some outcome) :
    ∃ b ∈ t.attempts, b.idempotencyKey = input.idempotencyKey ∧ b.Binds input ∧
      b.status = .completed ∧ b.outcome = some outcome := by
  rcases hr with rfl | rfl
  · obtain ⟨input', hinput', hbegun⟩ := returns_beginAttempt (Q := fun _ _ => True) hs h
    rw [hinput] at hinput'
    cases hinput'
    cases hbegun with
    | replayed hprior hcompleted hrecorded hsame =>
      cases houtcome
      rw [hsame]
      exact ⟨_, hprior.mem, hprior.key, hprior.binds, hcompleted, hrecorded⟩
    | interrupted hprior _ _ hresult =>
      cases houtcome
      rw [hresult]
      exact settled_row hprior
    | claimed _ _ => cases houtcome
  · obtain ⟨input', hinput', hcompleted⟩ := returns_completeAttempt (Q := fun _ _ => True) hs h
    rw [hinput] at hinput'
    cases hinput'
    cases hcompleted with
    | replayed hprior hcompleted hrecorded hsame =>
      cases houtcome
      rw [hsame]
      exact ⟨_, hprior.mem, hprior.key, hprior.binds, hcompleted, hrecorded⟩
    | completed hprior _ _ hresult =>
      cases houtcome
      rw [hresult]
      exact settled_row hprior

theorem fails_of_not_binds {r : Request} (hs : Sound db) (hr : r.IsAttempt body)
    (hinput : requireAttempt body = .ok input) (hmem : a ∈ db.attempts)
    (hkey : a.idempotencyKey = input.idempotencyKey) (hbinds : ¬ a.Binds input) :
    ∃ e, Fails (execute r) db e := by
  rcases returns_or_fails (execute r) db with ⟨answer, t, hreturns⟩ | hfails
  · have hprior : ∀ b, Prior db input b → False := by
      intro b hb
      have heq := hs.unique hmem hb.mem (hkey.trans hb.key.symm)
      subst heq
      exact hbinds hb.binds
    rcases hr with rfl | rfl
    · obtain ⟨input', hinput', hbegun⟩ := returns_beginAttempt (Q := fun _ _ => True) hs hreturns
      rw [hinput] at hinput'
      cases hinput'
      cases hbegun with
      | replayed hb _ _ _ | interrupted hb _ _ _ => exact (hprior _ hb).elim
      | claimed unclaimed _ => exact absurd hkey (unclaimed a hmem)
    · obtain ⟨input', hinput', hcompleted⟩ :=
        returns_completeAttempt (Q := fun _ _ => True) hs hreturns
      rw [hinput] at hinput'
      cases hinput'
      cases hcompleted with
      | replayed hb _ _ _ | completed hb _ _ _ => exact (hprior _ hb).elim
  · exact hfails

end Replays

theorem attemptsSound_empty : AttemptsSound Database.empty := by
  refine ⟨List.nodup_nil, ?_⟩
  intro a ha
  cases ha

theorem attempts_reached (steps : List Step) :
    Sound (reached steps) ∧ AttemptsSound (reached steps) :=
  run_keeps (fun _ h => ⟨h.one, h.tried⟩) (fun _ _ hs heffect ha => ha.effect hs heffect)
    (along_allowed Database.empty steps) sound_empty attemptsSound_empty

/-- Over every run a reservation has at most one attempt, which is never forgotten and does not
change once it is completed. A replay of a completed attempt tells the recorded outcome and
changes nothing, every outcome that is told is the recorded one, and a request that names the
attempt with another binding is refused and changes nothing. -/
theorem attempts_exactly_once (steps : List Step) :
    (∀ a ∈ (reached steps).attempts, ∀ more : List Step,
      (∃ b ∈ (reached (steps ++ more)).attempts, b.Continues a) ∧
        ∀ b ∈ (reached (steps ++ more)).attempts, b.reservationId = a.reservationId →
          b.Continues a) ∧ (∀ body input, requireAttempt body = .ok input →
      ∀ a ∈ (reached steps).attempts, a.idempotencyKey = input.idempotencyKey →
        (a.Binds input → a.status = .completed → ∃ outcome, a.outcome = some outcome ∧
          (respond (reached steps) (.begin body) false = .ok (.replay outcome) ∧
            step (reached steps) (.request (.begin body) false) = reached steps) ∧
          ∀ reported, reportedOutcome body = .ok reported →
            respond (reached steps) (.complete body) false = .ok (.replay outcome) ∧
              step (reached steps) (.request (.complete body) false) = reached steps) ∧
        (¬ a.Binds input → ∀ r : Request, r.IsAttempt body →
          (∃ e, respond (reached steps) r false = .error (some e)) ∧
            step (reached steps) (.request r false) = reached steps)) ∧
    ∀ r body input answer outcome, r.IsAttempt body → requireAttempt body = .ok input →
      respond (reached steps) r false = .ok answer → answer.outcome = some outcome →
        ∃ b ∈ (step (reached steps) (.request r false)).attempts,
          b.idempotencyKey = input.idempotencyKey ∧ b.Binds input ∧ b.status = .completed ∧
            b.outcome = some outcome := by
  obtain ⟨hs, ha⟩ := attempts_reached steps
  refine ⟨?_, ?_, ?_⟩
  · intro a hmem more
    have hrun : reached (steps ++ more) = run step (reached steps) more := run_append
    obtain ⟨c, hc, hca⟩ := run_continues hs hmem more
    rw [← hrun] at hc
    refine ⟨⟨c, hc, hca⟩, ?_⟩
    intro b hb hid
    have heq : b = c := List.inj_on_of_nodup_map (attempts_reached (steps ++ more)).2.one hb hc
      (hid.trans hca.reservationId.symm)
    subst heq
    exact hca
  · intro body input hinput a hmem hkey
    refine ⟨?_, ?_⟩
    · intro hbinds hcompleted
      obtain ⟨outcome, houtcome⟩ := Option.isSome_iff_exists.mp (hs.outcome a hmem hcompleted)
      have hprior : Prior (reached steps) input a := ⟨hmem, hkey, hbinds⟩
      refine ⟨outcome, houtcome, answered (begin_replays hs hinput hprior hcompleted houtcome), ?_⟩
      intro reported hreported
      exact answered (complete_replays hs hinput hreported hprior hcompleted houtcome)
    · intro hbinds r hr
      obtain ⟨e, hfails⟩ := fails_of_not_binds hs hr hinput hmem hkey hbinds
      exact ⟨⟨e, (refused hfails).1⟩, (refused hfails).2⟩
  · intro r body input answer outcome hr hinput hrespond houtcome
    exact told_is_recorded hs hr hinput (returns_of_respond hrespond) houtcome

end App20.Reservation
