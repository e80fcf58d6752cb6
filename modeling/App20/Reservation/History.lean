import App20.Reservation.Effects

/-!
# Fences and revisions over a run

The metadata of the ledger against the list of all versions that were ever stored. Every effect
stores at most one version, so the invariant is shown once, for a write.
-/

namespace App20.Reservation

open App20.Lib App20.Lib.Exec App20.Domain

/-! ## Versions -/

def Database.versions (db : Database) (id : Text) : List StoredReservation :=
  db.writes.filter fun r => r.reservation.reservationId = id

/-- The highest fence of the versions, and zero when there are none. -/
structure HighWater (writes : List StoredReservation) (highWater : Int) : Prop where
  le : ∀ w ∈ writes, w.reservation.fence ≤ highWater
  attained : writes ≠ [] → ∃ w ∈ writes, w.reservation.fence = highWater
  zero : writes = [] → highWater = 0

/-- The metadata and the records against the versions that were stored. -/
structure Recorded (db : Database) : Prop where
  unused : db.metadata = none → db.writes = []
  revision : ∀ row, db.metadata = some row → row.revision = db.writes.length
  highWater : ∀ row, db.metadata = some row → HighWater db.writes row.highWater
  positive : ∀ w ∈ db.writes, 0 < w.reservation.fence
  latest : ∀ id, db.records id = (db.versions id).getLast?
  increasing : ∀ id, (db.versions id).Pairwise fun a b => a.reservation.fence < b.reservation.fence
  first : ∀ before r after, db.writes = before ++ r :: after →
    (∀ w ∈ before, w.reservation.reservationId ≠ r.reservation.reservationId) →
    ∃ highWater, HighWater before highWater ∧ r.reservation.fence = highWater + 1

variable {id : Text}

section Versions

variable {db : Database} {next : StoredReservation} {writes : List StoredReservation}
  {highWater : Int}

theorem raised_eq_max (a b : Int) : raised a b = max a b := by
  unfold raised
  split <;> omega

theorem HighWater.append (h : HighWater writes highWater) (hnonneg : 0 < next.reservation.fence) :
    HighWater (writes ++ [next]) (raised highWater next.reservation.fence) := by
  rw [raised_eq_max]
  refine ⟨?_, ?_, ?_⟩
  · intro w hw
    rcases List.mem_append.mp hw with hmem | hmem
    · have hle := h.le w hmem
      omega
    · rw [List.mem_singleton.mp hmem]
      exact Int.le_max_right _ _
  · intro _
    by_cases hlt : highWater < next.reservation.fence
    · refine ⟨next, by simp, ?_⟩
      omega
    · -- the list was not empty, since its high water is positive
      have hne : writes ≠ [] := by
        intro hnil
        have hzero := h.zero hnil
        omega
      obtain ⟨w, hw, hfence⟩ := h.attained hne
      refine ⟨w, List.mem_append_left _ hw, ?_⟩
      omega
  · intro hnil
    exact absurd hnil (by simp)

theorem HighWater.nonneg (h : HighWater writes highWater)
    (hpositive : ∀ w ∈ writes, 0 < w.reservation.fence) : 0 ≤ highWater := by
  by_cases hnil : writes = []
  · rw [h.zero hnil]
  · obtain ⟨w, hw, hfence⟩ := h.attained hnil
    have hw' := hpositive w hw
    omega

theorem versions_write_self : (db.write next).versions next.reservation.reservationId =
    db.versions next.reservation.reservationId ++ [next] := by
  simp [Database.versions, Database.write, Database.save]

theorem versions_write_of_ne (h : id ≠ next.reservation.reservationId) :
    (db.write next).versions id = db.versions id := by
  have hne : next.reservation.reservationId ≠ id := fun heq => h heq.symm
  simp [Database.versions, Database.write, Database.save, hne]

theorem mem_versions {r : StoredReservation} :
    r ∈ db.versions id ↔ r ∈ db.writes ∧ r.reservation.reservationId = id := by
  simp only [Database.versions, List.mem_filter, decide_eq_true_eq]

theorem Recorded.current (h : Recorded db) {current : StoredReservation}
    (hstored : db.records id = some current) :
    current ∈ db.writes ∧
      ∀ w ∈ db.versions id, w.reservation.fence ≤ current.reservation.fence := by
  rw [h.latest id] at hstored
  obtain ⟨vs, hvs⟩ := List.getLast?_eq_some_iff.mp hstored
  have hincreasing := h.increasing id
  rw [hvs] at hincreasing
  refine ⟨(mem_versions.mp (hvs ▸ List.mem_append_right _ (List.mem_singleton.mpr rfl))).1, ?_⟩
  intro w hw
  rw [hvs] at hw
  rcases List.mem_append.mp hw with hmem | hmem
  · have hlt := (List.pairwise_append.mp hincreasing).2.2 w hmem current (List.mem_singleton.mpr rfl)
    omega
  · rw [List.mem_singleton.mp hmem]

/-- The fence that a version may be stored with: the next one of all for a new reservation, a
higher one for a known reservation. -/
def Fenced (db : Database) (next : StoredReservation) : Prop :=
  (db.records next.reservation.reservationId = none ∧ next.reservation.fence = db.highWater + 1) ∨
    ∃ current, db.records next.reservation.reservationId = some current ∧
      current.reservation.fence < next.reservation.fence

section

variable (h : Recorded db)

include h

theorem Recorded.ready {current : StoredReservation} (hstored : db.records id = some current) :
    db.metadata.isSome := by
  cases hmetadata : db.metadata with
  | some row => rfl
  | none =>
    have hmem := (h.current hstored).1
    rw [h.unused hmetadata] at hmem
    cases hmem

theorem Recorded.fence_pos (hready : db.metadata.isSome) (hfenced : Fenced db next) :
    0 < next.reservation.fence := by
  rcases hfenced with ⟨-, hfence⟩ | ⟨current, hstored, hlt⟩
  · obtain ⟨row, hrow⟩ := Option.isSome_iff_exists.mp hready
    have hnonneg := (h.highWater row hrow).nonneg h.positive
    simp only [Database.highWater, hrow, Option.map_some, Option.getD_some] at hfence
    omega
  · have hpos := h.positive current (h.current hstored).1
    omega

theorem Recorded.increasing_write (hfenced : Fenced db next) (id : Text) :
    ((db.write next).versions id).Pairwise
      fun a b => a.reservation.fence < b.reservation.fence := by
  by_cases hid : id = next.reservation.reservationId
  · subst hid
    rw [versions_write_self]
    refine List.pairwise_append.mpr ⟨h.increasing _, List.pairwise_singleton _ _, ?_⟩
    intro w hw r hr
    rw [List.mem_singleton.mp hr]
    rcases hfenced with ⟨hnone, -⟩ | ⟨current, hstored, hlt⟩
    · rw [h.latest, List.getLast?_eq_none_iff] at hnone
      rw [hnone] at hw
      cases hw
    · have hle := (h.current hstored).2 w hw
      omega
  · rw [versions_write_of_ne hid]
    exact h.increasing id

theorem Recorded.first_write (hready : db.metadata.isSome) (hfenced : Fenced db next)
    {before : List StoredReservation} {r : StoredReservation} {after : List StoredReservation}
    (hsplit : (db.write next).writes = before ++ r :: after)
    (hnew : ∀ w ∈ before, w.reservation.reservationId ≠ r.reservation.reservationId) :
    ∃ highWater, HighWater before highWater ∧ r.reservation.fence = highWater + 1 := by
  have hwrites : db.writes ++ [next] = before ++ r :: after := hsplit
  rcases List.eq_nil_or_concat after with rfl | ⟨after', last, rfl⟩
  · -- the version is the one just stored
    obtain ⟨rfl, hr⟩ := List.append_inj' hwrites rfl
    obtain rfl : next = r := List.singleton_inj.mp hr
    obtain ⟨row, hrow⟩ := Option.isSome_iff_exists.mp hready
    refine ⟨row.highWater, h.highWater row hrow, ?_⟩
    rcases hfenced with ⟨-, hfence⟩ | ⟨current, hstored, -⟩
    · rw [hfence, Database.highWater, hrow]
      rfl
    · have hmem : current ∈ db.versions next.reservation.reservationId := by
        rw [h.latest] at hstored
        exact List.mem_of_getLast? hstored
      obtain ⟨hwrite, hid⟩ := mem_versions.mp hmem
      exact absurd hid (hnew current hwrite)
  · rw [List.concat_eq_append, ← List.cons_append, ← List.append_assoc] at hwrites
    exact h.first before r after' (List.append_inj' hwrites rfl).1 hnew

theorem Recorded.write (hready : db.metadata.isSome) (hfenced : Fenced db next) :
    Recorded (db.write next) := by
  have hpos := h.fence_pos hready hfenced
  obtain ⟨row, hrow⟩ := Option.isSome_iff_exists.mp hready
  have hmetadata : (db.write next).metadata = some (row.next next.reservation.fence) := by
    simp only [Database.write, hrow, Option.map_some]
  have hwrites : (db.write next).writes = db.writes ++ [next] := rfl
  refine ⟨?_, ?_, ?_, ?_, ?_, h.increasing_write hfenced, fun _ _ _ => h.first_write hready hfenced⟩
  · rw [hmetadata]
    intro hnone
    cases hnone
  · intro row' hrow'
    rw [hmetadata] at hrow'
    cases hrow'
    rw [hwrites, List.length_append, List.length_singleton, ← h.revision row hrow]
    rfl
  · intro row' hrow'
    rw [hmetadata] at hrow'
    cases hrow'
    exact (h.highWater row hrow).append hpos
  · intro w hw
    rcases List.mem_append.mp hw with hmem | hmem
    · exact h.positive w hmem
    · rw [List.mem_singleton.mp hmem]
      exact hpos
  · intro id
    by_cases hid : id = next.reservation.reservationId
    · subst hid
      rw [versions_write_self, List.getLast?_concat]
      exact records_write_self
    · rw [versions_write_of_ne hid, records_write_of_ne hid, h.latest id]

theorem Recorded.claim (attempt : AttemptRow) : Recorded (db.claim attempt) :=
  ⟨h.unused, h.revision, h.highWater, h.positive, h.latest, h.increasing, h.first⟩

theorem Recorded.settle (key : Text) (outcome : AttemptOutcome) :
    Recorded (db.settle key outcome) :=
  ⟨h.unused, h.revision, h.highWater, h.positive, h.latest, h.increasing, h.first⟩

end

end Versions

/-! ## Runs -/

theorem recorded_empty : Recorded Database.empty := by
  refine ⟨fun _ => rfl, ?_, ?_, ?_, fun _ => rfl, fun _ => List.Pairwise.nil, ?_⟩
  · intro row hrow
    cases hrow
  · intro row hrow
    cases hrow
  · intro w hw
    cases hw
  · intro before r after hsplit
    simp [Database.empty] at hsplit

theorem Recorded.construct {db : Database} (h : Recorded db) : Recorded (construct db) := by
  cases hmetadata : db.metadata with
  | some row =>
    have hsame : Reservation.construct db = db := by
      unfold Reservation.construct
      rw [hmetadata, Option.some_or, ← hmetadata]
    rw [hsame]
    exact h
  | none =>
    have hnew : (Reservation.construct db).metadata = some ⟨0, 0⟩ := by
      simp only [Reservation.construct, hmetadata, Option.none_or]
    have hnil := h.unused hmetadata
    refine ⟨fun _ => hnil, ?_, ?_, h.positive, h.latest, h.increasing, h.first⟩
    · intro row hrow
      rw [hnew] at hrow
      cases hrow
      exact (congrArg List.length hnil).symm
    · intro row hrow
      rw [hnew] at hrow
      cases hrow
      refine ⟨?_, fun hne => absurd hnil hne, fun _ => rfl⟩
      intro w hw
      rw [show (Reservation.construct db).writes = [] from hnil] at hw
      cases hw

theorem Sound.fenced_transition {db : Database} {current : StoredReservation}
    {c : ReservationCommand} {n : MakerReservation} (hs : Sound db)
    (hstored : db.records id = some current) (hstep : Transitioned current.reservation c n) :
    Fenced db { current with reservation := n } := by
  refine Or.inr ⟨current, ?_, ?_⟩
  · change db.records n.reservationId = some current
    rw [← hstep.step.same.reservationId, hs.key id current hstored]
    exact hstored
  · change current.reservation.fence < n.fence
    rw [hstep.step.fence_eq]
    omega

theorem Recorded.effect {Q : Option ReservationState → ReservationState → Prop} {db db' : Database}
    (hs : Sound db) (h : Effect Q db db') (hr : Recorded db) : Recorded db' := by
  cases h with
  | create ready fresh _ _ fence _ _ => exact hr.write ready (Or.inl ⟨fresh, fence⟩)
  | revise stored revised _ _ _ =>
    refine hr.write (hr.ready stored) (Or.inr ⟨_, stored, ?_⟩)
    rw [revised.fence_eq]
    omega
  | claim stored _ _ step _ =>
    exact (hr.write (hr.ready stored) (hs.fenced_transition stored step)).claim _
  | finish stored _ _ _ _ step =>
    exact (hr.write (hr.ready stored) (hs.fenced_transition stored step)).settle _ _

theorem recorded_reached (steps : List Step) : Recorded (reached steps) :=
  (run_keeps (fun _ h => h.construct) (fun _ _ hs h hr => hr.effect hs h)
    (along_allowed Database.empty steps) sound_empty recorded_empty).2

/-- A request that is answered with an error changes nothing. -/
theorem step_of_error {db : Database} {r : Request} {storageFails : Bool} {e : Option LedgerError}
    (h : respond db r storageFails = .error e) : step db (.request r storageFails) = db := by
  unfold respond at h
  unfold step
  cases storageFails with
  | true => rfl
  | false =>
    simp only [Bool.false_eq_true, if_false] at h ⊢
    cases hr : (execute r).run db with
    | error e => rfl
    | ok p =>
      rw [hr] at h
      cases h

/-- In every reachable state the high water is the highest fence that was ever stored and the
revision counts the versions that were stored; a new reservation has the fence after the highest
one so far, the fence of a reservation increases from version to version, and a request that is
answered with an error changes nothing. -/
theorem fences_and_revision (steps : List Step) :
    (∀ row, (reached steps).metadata = some row → HighWater (reached steps).writes row.highWater ∧
        row.revision = (reached steps).writes.length) ∧
    (∀ before r after, (reached steps).writes = before ++ r :: after →
      (∀ w ∈ before, w.reservation.reservationId ≠ r.reservation.reservationId) →
      (∃ highWater, HighWater before highWater ∧ r.reservation.fence = highWater + 1) ∧
        ∀ w ∈ before, w.reservation.fence < r.reservation.fence) ∧
    (∀ id, ((reached steps).versions id).Pairwise
      fun a b => a.reservation.fence < b.reservation.fence) ∧
    ∀ r storageFails e, respond (reached steps) r storageFails = .error e →
      step (reached steps) (.request r storageFails) = reached steps := by
  have h := recorded_reached steps
  refine ⟨?_, ?_, h.increasing, fun _ _ _ => step_of_error⟩
  · intro row hrow
    exact ⟨h.highWater row hrow, h.revision row hrow⟩
  · intro before r after hsplit hnew
    obtain ⟨highWater, hhigh, hfence⟩ := h.first before r after hsplit hnew
    refine ⟨⟨highWater, hhigh, hfence⟩, ?_⟩
    intro w hw
    have hle := hhigh.le w hw
    omega

end App20.Reservation
