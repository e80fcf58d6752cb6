import App20.Reservation.History
import App20.Reservation.Recovery

/-!
# What a stored record keeps

The terms of the reservation itself stay the same from version to version, and the requests about
attempts and recovery change nothing else of a record. A commit stores the other fields as they
come: it may sign a quote, and it may change an amount.
-/

namespace App20.Reservation

open App20.Lib App20.Lib.Exec App20.Domain

theorem SameReservation.symm {a b : MakerReservation} (h : SameReservation a b) :
    SameReservation b a :=
  ⟨h.1.symm, h.2.symm, h.3.symm, h.4.symm, h.5.symm, h.6.symm, h.7.symm, h.8.symm⟩

theorem SameReservation.trans {a b c : MakerReservation} (h : SameReservation a b)
    (h' : SameReservation b c) : SameReservation a c :=
  ⟨h.1.trans h'.1, h.2.trans h'.2, h.3.trans h'.3, h.4.trans h'.4, h.5.trans h'.5, h.6.trans h'.6,
    h.7.trans h'.7, h.8.trans h'.8⟩

theorem SameReservation.refl (a : MakerReservation) : SameReservation a a :=
  ⟨rfl, rfl, rfl, rfl, rfl, rfl, rfl, rfl⟩

/-! ## The terms of the reservation -/

/-- All stored versions of a reservation have the same terms. -/
def SameTerms (db : Database) : Prop :=
  ∀ id, ∀ v ∈ db.versions id, ∀ w ∈ db.versions id, SameReservation v.reservation w.reservation

section Terms

variable {db db' : Database} {next current : StoredReservation}

theorem SameTerms.write (h : SameTerms db)
    (hnext : ∀ v ∈ db.versions next.reservation.reservationId,
      SameReservation v.reservation next.reservation) : SameTerms (db.write next) := by
  intro id v hv w hw
  by_cases hid : id = next.reservation.reservationId
  · subst hid
    rw [versions_write_self, List.mem_append, List.mem_singleton] at hv hw
    rcases hv with hv | rfl
    · rcases hw with hw | rfl
      · exact h _ v hv w hw
      · exact hnext v hv
    · rcases hw with hw | rfl
      · exact (hnext w hw).symm
      · exact .refl _
  · rw [versions_write_of_ne hid] at hv hw
    exact h id v hv w hw

/-- The next version has the terms of the stored record, and so of all versions before. -/
theorem SameTerms.write_next (h : SameTerms db) (hr : Recorded db)
    (hstored : db.records next.reservation.reservationId = some current)
    (hsame : SameReservation current.reservation next.reservation) : SameTerms (db.write next) := by
  apply h.write
  intro v hv
  have hmem : current ∈ db.versions next.reservation.reservationId := by
    rw [hr.latest] at hstored
    exact List.mem_of_getLast? hstored
  exact (h _ v hv current hmem).trans hsame

theorem SameTerms.effect {Q : Option ReservationState → ReservationState → Prop} (hs : Sound db)
    (heffect : Effect Q db db') (hr : Recorded db) (h : SameTerms db) : SameTerms db' := by
  cases heffect with
  | create _ fresh _ _ _ _ _ =>
    apply h.write
    intro v hv
    rw [hr.latest, List.getLast?_eq_none_iff] at fresh
    rw [fresh] at hv
    cases hv
  | revise stored revised _ _ _ => exact h.write_next hr stored revised.same
  | @claim current n attempt time stored _ _ step _
  | @finish current n attempt outcome time stored _ _ _ _ step =>
    have hid := hs.transition_id stored step
    have hstored : db.records n.reservationId = some current := hid ▸ stored
    apply h.write_next hr hstored
    exact step.step.same

end Terms

/-! ## The other fields of a record -/

/-- Every record is still there, with the same terms and all other fields as they were, and there
is no new one. -/
def KeepsFields (db db' : Database) : Prop :=
  ∀ id, (db.records id = none → db'.records id = none) ∧
    ∀ r, db.records id = some r → ∃ n, db'.records id = some { r with reservation := n } ∧
      SameReservation r.reservation n

theorem KeepsFields.refl (db : Database) : KeepsFields db db := by
  intro id
  exact ⟨fun h => h, fun r hr => ⟨r.reservation, hr, .refl _⟩⟩

theorem KeepsFields.trans {db db' db'' : Database} (h : KeepsFields db db')
    (h' : KeepsFields db' db'') : KeepsFields db db'' := by
  intro id
  refine ⟨fun hnone => (h' id).1 ((h id).1 hnone), ?_⟩
  intro r hr
  obtain ⟨n, hn, hsame⟩ := (h id).2 r hr
  obtain ⟨m, hm, hsame'⟩ := (h' id).2 _ hn
  exact ⟨m, hm, hsame.trans hsame'⟩

theorem KeepsFields.write {db : Database} {id : Text} {current : StoredReservation}
    {c : ReservationCommand} {n : MakerReservation} (hs : Sound db)
    (hstored : db.records id = some current) (hstep : Transitioned current.reservation c n) :
    KeepsFields db (db.write { current with reservation := n }) := by
  have hid := hs.transition_id hstored hstep
  subst hid
  have hself : (db.write { current with reservation := n }).records n.reservationId =
      some { current with reservation := n } := records_write_self
  intro id'
  by_cases heq : id' = n.reservationId
  · subst heq
    refine ⟨fun hnone => ?_, fun r hr => ?_⟩
    · rw [hstored] at hnone
      cases hnone
    · rw [hstored] at hr
      cases hr
      exact ⟨n, hself, hstep.step.same⟩
  · have hsame : (db.write { current with reservation := n }).records id' = db.records id' :=
      records_write_of_ne heq
    rw [hsame]
    exact KeepsFields.refl db id'

/-- What is not a commit makes only claims and ends of attempts. -/
theorem KeepsFields.effect {db db' : Database} (hs : Sound db)
    (h : Effect (fun _ _ => False) db db') : KeepsFields db db' := by
  cases h with
  | create _ _ _ allowed _ _ _ | revise _ _ allowed _ _ => exact allowed.elim
  | claim stored _ _ step _ | finish stored _ _ _ _ step => exact KeepsFields.write hs stored step

theorem keepsFields_step {db : Database} {r : Request} {storageFails : Bool} (hs : Sound db)
    (hr : ∀ body, r ≠ .commit body) : KeepsFields db (step db (.request r storageFails)) := by
  have hallowed : (Step.request r storageFails).Allowed (fun _ _ => False) db := by
    cases r with
    | commit body => exact (hr body rfl).elim
    | begin | complete | recover => trivial
  rcases step_effects hs hallowed with heq | heffects
  · rw [heq]
    exact KeepsFields.refl db
  · apply (Effects.keeps (I := fun db' => Sound db' ∧ KeepsFields db db') _ heffects
      ⟨hs, .refl db⟩).2
    rintro db1 db2 heffect ⟨hs1, hkeeps⟩
    exact ⟨hs1.effect heffect, hkeeps.trans (KeepsFields.effect hs1 heffect)⟩

/-! ## Runs -/

theorem sameTerms_reached (steps : List Step) : SameTerms (reached steps) := by
  refine (run_keeps (I := fun db => Recorded db ∧ SameTerms db) ?_ ?_
    (along_allowed Database.empty steps) sound_empty ⟨recorded_empty, ?_⟩).2.2
  · rintro db ⟨hr, h⟩
    exact ⟨hr.construct, h⟩
  · rintro db db' hs heffect ⟨hr, h⟩
    exact ⟨hr.effect hs heffect, h.effect hs heffect hr⟩
  · intro id v hv
    cases hv

/-- In every reachable state the stored versions of a reservation have the same terms, and one
text names at most one record; a request about an attempt and a recovery keep every record with
all its fields beside the reservation, and make no record. -/
theorem stored_terms (steps : List Step) :
    (∀ id, ∀ v ∈ (reached steps).versions id, ∀ w ∈ (reached steps).versions id,
      SameReservation v.reservation w.reservation) ∧
    (∀ id id' r r', (reached steps).records id = some r → (reached steps).records id' = some r' →
      r.reservation.reservationId = r'.reservation.reservationId → id = id' ∧ r = r') ∧
    ∀ r storageFails, (∀ body, r ≠ Request.commit body) →
      KeepsFields (reached steps) (step (reached steps) (.request r storageFails)) := by
  have hs : Sound (reached steps) := sound_run sound_empty steps
  refine ⟨sameTerms_reached steps, ?_, fun _ _ hr => keepsFields_step hs hr⟩
  intro id id' r r' hr hr' heq
  rw [hs.key id r hr, hs.key id' r' hr'] at heq
  subst heq
  rw [hr] at hr'
  cases hr'
  exact ⟨rfl, rfl⟩

/-! ## What a commit changes -/

/-- The selection of the sample with another sell amount and with a signed quote. -/
def sampleRepriced : StoredReservation :=
  { sampleSelected with
    sellAmount := 999
    quote := some ⟨"canonical".toList, "signature".toList, sampleWord '4'⟩ }

def repricedRun : List Step :=
  [.restart, commitOf 0 sampleRecord .null, commitOf 1 sampleRepriced (.string "1".toList)]

def sampleRespelled (digit : Char) (fence : Int) : StoredReservation :=
  { sampleRecord with reservation := { sampleRecord.reservation with
      reservationId := sampleWord digit, fence := fence } }

def respelledRun : List Step :=
  [.restart, commitOf 0 (sampleRespelled 'a' 1) .null, commitOf 1 (sampleRespelled 'A' 2) .null]

/-- A commit may change the sell amount and add a signature, and two spellings of one reservation
id may name two records. -/
theorem commit_changes_terms :
    (∃ v ∈ (reached repricedRun).versions (sampleWord '1'),
      ∃ w ∈ (reached repricedRun).versions (sampleWord '1'),
        v.sellAmount = 1000 ∧ w.sellAmount = 999 ∧ v.quote = none ∧ w.quote.isSome = true) ∧
    requireDigest (sampleWord 'A') "reservationId" = .ok (sampleWord 'a') ∧
    ((reached respelledRun).records (sampleWord 'a')).isSome = true ∧
      ((reached respelledRun).records (sampleWord 'A')).isSome = true := by
  decide +kernel

end App20.Reservation
