import App20.Domain.Decimal
import App20.Reservation.Recovery
import App20.Reservation.Transactions
import Mathlib.Data.List.Dedup

/-!
# When a transaction is serializable

The ledger checks each mutation of a draft as one step from its stored record. It takes a draft
whose reservations were put once each, with the fences that it expects, and no other.

* `commits_iff`: the checks of a whole draft.
* `receive_commitBody`: when the ledger takes a commit.
* `serializable_iff`: when a transaction does what its operation saw.
* `serializable_not`: a reservation that is created and selected in one transaction.
-/

namespace App20.Reservation.Repository

open App20.Lib App20.Lib.Exec App20.Domain

/-! ## What the ledger checks -/

def Put.fence (put : Put) : Int := put.record.reservation.fence

/-- The checks of the mutations, one after the other. -/
def Commits (records : Text → Option StoredReservation) : List Text → Int → List Put → Prop
  | _, _, [] => True
  | seen, highWater, m :: ms =>
    (m.id ∉ seen ∧ m.Revises (records m.id) ∧ ((records m.id).isSome ∨ m.fence = highWater + 1)) ∧
      Commits records (m.id :: seen) (raised highWater m.fence) ms

/-- New reservations have the fence after the highest one so far. -/
def Consecutive (records : Text → Option StoredReservation) : Int → List Put → Prop
  | _, [] => True
  | highWater, put :: puts =>
    ((records put.id).isSome ∨ put.fence = highWater + 1) ∧
      Consecutive records (raised highWater put.fence) puts

variable {records : Text → Option StoredReservation} {ms : List Put} {revision : Nat}

theorem commits_iff :
    ∀ {seen : List Text} {highWater : Int}, Commits records seen highWater ms ↔
        (ms.map Put.id).Nodup ∧ (∀ m ∈ ms, m.id ∉ seen) ∧
          (∀ m ∈ ms, m.Revises (records m.id)) ∧ Consecutive records highWater ms := by
  induction ms with
  | nil =>
    intro seen highWater
    simp [Commits, Consecutive]
  | cons m ms ih =>
    intro seen highWater
    rw [Commits, Consecutive, ih, List.map_cons, List.nodup_cons]
    constructor
    · rintro ⟨⟨hseen, hrevises, hfence⟩, hnodup, hnew, hrest, hconsecutive⟩
      refine ⟨⟨?_, hnodup⟩, ?_, ?_, hfence, hconsecutive⟩
      · intro hmem
        obtain ⟨other, hother, heq⟩ := List.mem_map.mp hmem
        exact hnew other hother (heq ▸ List.mem_cons_self)
      · intro other hother
        rcases List.mem_cons.mp hother with rfl | hother
        · exact hseen
        · exact fun hmem => hnew other hother (List.mem_cons_of_mem m.id hmem)
      · intro other hother
        rcases List.mem_cons.mp hother with rfl | hother
        · exact hrevises
        · exact hrest other hother
    · rintro ⟨⟨hnot, hnodup⟩, hnew, hall, hfence, hconsecutive⟩
      refine ⟨⟨hnew m List.mem_cons_self, hall m List.mem_cons_self, hfence⟩, hnodup, ?_, ?_,
        hconsecutive⟩
      · intro other hother hmem
        rcases List.mem_cons.mp hmem with heq | hmem
        · exact hnot (heq ▸ List.mem_map_of_mem hother)
        · exact hnew other (List.mem_cons_of_mem m hother) hmem
      · exact fun other hother => hall other (List.mem_cons_of_mem m hother)

/-- The ledger takes a draft when its puts are of different reservations. -/
theorem Follows.commits_iff {puts : List Put} {draft : Draft} (h : Follows records puts draft)
    {highWater : Int} :
    Commits records [] highWater draft.mutations ↔
      (puts.map Put.id).Nodup ∧ Consecutive records highWater puts := by
  rw [Repository.commits_iff]
  constructor
  · rintro ⟨-, -, hrevises, hconsecutive⟩
    have hnodup : (puts.map Put.id).Nodup := by
      rw [List.nodup_iff_count_le_one]
      intro id
      by_cases hmem : id ∈ puts.map Put.id
      · obtain ⟨m, hm, rfl⟩ := List.mem_map.mp ((h.mem id).mpr hmem)
        rcases h.entry m hm with ⟨hone, -⟩ | ⟨-, hfolded⟩
        · exact le_of_eq hone
        · exact absurd (hrevises m hm) hfolded.not_revises
      · rw [List.count_eq_zero.mpr hmem]
        exact Nat.zero_le 1
    exact ⟨hnodup, h.whole hnodup ▸ hconsecutive⟩
  · rintro ⟨hnodup, hconsecutive⟩
    refine ⟨h.ids, fun _ _ hmem => (List.not_mem_nil hmem).elim, ?_,
      (h.whole hnodup).symm ▸ hconsecutive⟩
    intro m hm
    have hcount : countOf m.id puts ≤ 1 := List.nodup_iff_count_le_one.mp hnodup m.id
    rcases h.entry m hm with ⟨-, hrevises⟩ | ⟨hmore, -⟩
    · exact hrevises
    · omega

/-! ## Commits -/

section Commits

variable {db t : Database}

/-- The stored records read as they are stored. -/
def Readable (db : Database) : Prop :=
  ∀ id r, db.records id = some r → decodeStoredMakerReservation r.encode = .ok r

theorem isPositiveDecimal_decimal {n : Int} (h : 0 < n) : isPositiveDecimal (decimal n) = true := by
  obtain ⟨c, cs, hdigits, hlow, hhigh, hall⟩ := leadingDigit_toDigits (n := n.natAbs) (by omega)
  have hne : c ≠ '0' := by
    rintro rfl
    exact absurd hlow (by decide)
  have hfirst : isDecDigit c = true := by
    apply decide_eq_true
    omega
  unfold decimal
  rw [if_neg (by omega), hdigits]
  simp only [isPositiveDecimal, Bool.and_eq_true, decide_eq_true_eq, List.all_eq_true,
    List.mem_cons]
  refine ⟨hne, ?_⟩
  rintro d (rfl | hd)
  · exact hfirst
  · exact hall d hd

theorem mutationFence_encode {m : Put} (h : ∀ fence, m.expectedFence = some fence → 0 < fence) :
    mutationFence m.encode = .ok m.expectedFence := by
  have hget : m.encode.get? "expectedFence" =
      some ((m.expectedFence.map fun fence => Json.string (decimal fence)).getD .null) := rfl
  unfold mutationFence
  rw [hget]
  cases hexpected : m.expectedFence with
  | none => rfl
  | some fence =>
    have hpos := h fence hexpected
    simp only [Option.map_some, Option.getD_some, requirePositiveBigInt, fenceText,
      isPositiveDecimal_decimal hpos, if_true]
    exact congrArg (fun n => Except.ok (some n)) (decimalValue_decimal (Int.le_of_lt hpos))

theorem prepareMutation_encode (acc acc' : Prepared) {m : Put} (hreadable : Readable db)
    (hstable : m.Stable) (hpos : ∀ fence, m.expectedFence = some fence → 0 < fence) :
    Returns (prepareMutation acc m.encode) db acc' t ↔
      (m.id ∉ acc.seen ∧ m.Revises (db.records m.id) ∧
        ((db.records m.id).isSome ∨ m.fence = acc.validationHighWater + 1)) ∧
      acc' = ⟨m.id :: acc.seen, raised acc.validationHighWater m.fence, acc.records ++ [m.record]⟩ ∧
      t = db := by
  have hget : m.encode.get? "record" = some m.record.encode := rfl
  unfold prepareMutation requireStoredRecord
  rw [hget, Option.getD_some]
  have hdecode : decodeStoredMakerReservation m.record.encode = .ok m.record := hstable
  simp only [returns_checked_bind, hdecode, Except.ok.injEq, exists_eq_left', returns_assert_bind,
    returns_reservationRow_bind]
  have hcurrent : ∀ {β : Type} {k : Option StoredReservation → LedgerM β} {b : β},
      Returns (currentRecord (db.records m.id) >>= k) db b t ↔
        Returns (k (db.records m.id)) db b t := by
    intro β k b
    cases hrow : db.records m.id with
    | none => simp [currentRecord]
    | some row =>
      simp only [currentRecord, requireStoredRecord, map_eq_pure_bind, bind_assoc, pure_bind,
        returns_checked_bind, hreadable m.id row hrow, Except.ok.injEq, exists_eq_left']
  rw [show m.record.reservation.reservationId = m.id from rfl]
  simp only [hcurrent, returns_lift_bind, mutationFence_encode hpos, Except.ok.injEq,
    exists_eq_left', returns_checked_bind, returns_assert_bind, returns_pure, exists_unit]
  constructor
  · rintro ⟨hseen, hrevises, hfence, rfl, rfl⟩
    exact ⟨⟨hseen, hrevises, hfence⟩, rfl, rfl⟩
  · rintro ⟨⟨hseen, hrevises, hfence⟩, rfl, rfl⟩
    exact ⟨hseen, hrevises, hfence, rfl, rfl⟩

/-- The first loop of a commit makes the checks of the draft. -/
theorem prepareMutations_encode (hreadable : Readable db) :
    ∀ acc acc' : Prepared, (∀ m ∈ ms, m.Stable) →
      (∀ m ∈ ms, ∀ fence, m.expectedFence = some fence → 0 < fence) →
      (Returns ((ms.map Put.encode).foldlM prepareMutation acc) db acc' t →
        Commits db.records acc.seen acc.validationHighWater ms ∧
          acc'.records = acc.records ++ ms.map Put.record ∧ t = db) ∧
      (Commits db.records acc.seen acc.validationHighWater ms →
        ∃ final, Returns ((ms.map Put.encode).foldlM prepareMutation acc) db final db) := by
  induction ms with
  | nil =>
    intro acc acc' _ _
    rw [List.map_nil]
    refine ⟨?_, fun _ => ⟨acc, returns_foldlM_nil.mpr ⟨rfl, rfl⟩⟩⟩
    intro h
    obtain ⟨rfl, rfl⟩ := returns_foldlM_nil.mp h
    exact ⟨trivial, by rw [List.map_nil, List.append_nil], rfl⟩
  | cons m ms ih =>
    intro acc acc' hstable hpos
    have hm := fun (a : Prepared) {u : Database} => prepareMutation_encode (t := u) acc a hreadable
      (hstable m List.mem_cons_self) (hpos m List.mem_cons_self)
    have hrest := fun a b : Prepared => ih a b
      (fun other hother => hstable other (List.mem_cons_of_mem m hother))
      (fun other hother => hpos other (List.mem_cons_of_mem m hother))
    rw [List.map_cons]
    constructor
    · intro h
      obtain ⟨acc1, u, hfirst, hothers⟩ := returns_foldlM_cons.mp h
      obtain ⟨hchecks, rfl, rfl⟩ := (hm acc1).mp hfirst
      obtain ⟨hcommits, hrecords, rfl⟩ := (hrest _ _).1 hothers
      refine ⟨⟨hchecks, hcommits⟩, ?_, rfl⟩
      rw [hrecords, List.map_cons, List.append_assoc, List.singleton_append]
    · rintro ⟨hchecks, hcommits⟩
      let next : Prepared := ⟨m.id :: acc.seen, raised acc.validationHighWater m.fence,
        acc.records ++ [m.record]⟩
      obtain ⟨final, hothers⟩ := (hrest next acc).2 hcommits
      exact ⟨final, returns_foldlM_cons.mpr ⟨next, db, (hm next).mpr ⟨hchecks, rfl, rfl⟩, hothers⟩⟩

/-- The second loop stores the records. -/
theorem writeRecords_records :
    ∀ (row : MetadataRow) (now : Database), ∃ row' after,
      Returns ((ms.map Put.record).foldlM writeRecord row) now row' after ∧
        after.records = ms.foldl setRecord now.records := by
  induction ms with
  | nil =>
    intro row now
    exact ⟨row, now, returns_foldlM_nil.mpr ⟨rfl, rfl⟩, rfl⟩
  | cons m ms ih =>
    intro row now
    let stored : Database := { now.save m.record with
      metadata := (now.save m.record).metadata.map fun _ => row.next m.fence }
    obtain ⟨row', after, hrest, hrecords⟩ := ih (row.next m.fence) stored
    refine ⟨row', after, ?_, hrecords⟩
    rw [List.map_cons]
    refine returns_foldlM_cons.mpr ⟨row.next m.fence, stored, ?_, hrest⟩
    unfold writeRecord saveRecord advanceMetadata
    simp only [returns_modify_bind, returns_pure]
    exact ⟨rfl, rfl⟩

/-- What a commit of a draft is checked for. -/
structure Accepts (db : Database) (revision : Nat) (ms : List Put) : Prop where
  bounded : (revision : Int) ≤ maxSafeInteger
  limit : ms.length ≤ 100
  current : ∃ row, db.metadata = some row ∧ row.revision = revision ∧
    Commits db.records [] row.highWater ms

theorem commitInput_commitBody {input : CommitInput} :
    commitInput (commitBody revision ms) = .ok input ↔
      (revision : Int) ≤ maxSafeInteger ∧ ms.length ≤ 100 ∧
        input = ⟨revision, ms.map Put.encode⟩ := by
  have hrevision : (commitBody revision ms).get? "expectedRevision" = some (.number revision) := rfl
  have hmutations : (commitBody revision ms).get? "mutations" = some (.array (ms.map Put.encode)) :=
    rfl
  have hlow : -maxSafeInteger ≤ (revision : Int) := by
    unfold maxSafeInteger
    omega
  unfold commitInput
  rw [hrevision, hmutations]
  by_cases hbound : (revision : Int) ≤ maxSafeInteger
  · by_cases hlimit : ms.length ≤ 100
    · simp [isSafeInteger, hlow, hbound, hlimit, eq_comm]
    · simp [isSafeInteger, hlow, hbound, hlimit]
  · simp [isSafeInteger, hbound]

section

variable (hreadable : Readable db) (hstable : ∀ m ∈ ms, m.Stable)
  (hpos : ∀ m ∈ ms, ∀ fence, m.expectedFence = some fence → 0 < fence)

include hreadable hstable hpos

theorem accepts_of_returns_commit :
    (∃ answer, Returns (commit (commitBody revision ms)) db answer t) →
      Accepts db revision ms ∧ t.records = ms.foldl setRecord db.records := by
  rintro ⟨answer, h⟩
  simp only [commit, returns_lift_bind, returns_metadata_bind, returns_assert_bind] at h
  obtain ⟨input, hinput, row, hrow, -, hrevision, h⟩ := h
  obtain ⟨hbounded, hlimit, rfl⟩ := commitInput_commitBody.mp hinput
  obtain ⟨prepared, u, hprepare, hstore⟩ := returns_bind.mp h
  obtain ⟨hcommits, hrecords, rfl⟩ :=
    (prepareMutations_encode hreadable _ _ hstable hpos).1 hprepare
  obtain ⟨row', v, hwrite, hanswer⟩ := returns_bind.mp hstore
  obtain ⟨-, rfl⟩ := returns_pure.mp hanswer
  rw [hrecords, List.nil_append] at hwrite
  obtain ⟨row1, after, hafter, hview⟩ := writeRecords_records row u
  cases Eq.trans (Eq.symm hwrite) hafter
  have hcast : (row.revision : Int) = (revision : Int) := hrevision
  exact ⟨⟨hbounded, hlimit, row, hrow, Int.ofNat.inj hcast, hcommits⟩, hview⟩

theorem returns_commit_of_accepts (h : Accepts db revision ms) :
    ∃ answer after, Returns (commit (commitBody revision ms)) db answer after := by
  obtain ⟨hbounded, hlimit, row, hrow, hrevision, hcommits⟩ := h
  obtain ⟨final, hfinal⟩ :=
    (prepareMutations_encode (t := db) hreadable ⟨[], row.highWater, []⟩ ⟨[], row.highWater, []⟩
      hstable hpos).2 hcommits
  have hrecords := ((prepareMutations_encode hreadable _ _ hstable hpos).1 hfinal).2.1
  obtain ⟨row', after, hafter, -⟩ := writeRecords_records row db
  refine ⟨.committed row'.revision, after, ?_⟩
  simp only [commit, returns_lift_bind, returns_metadata_bind, returns_assert_bind]
  refine ⟨_, commitInput_commitBody.mpr ⟨hbounded, hlimit, rfl⟩, row, hrow, ?_, ?_, ?_⟩
  · rw [hrevision]
    exact hbounded
  · exact congrArg Nat.cast hrevision
  · refine returns_bind.mpr ⟨final, db, hfinal, returns_bind.mpr ⟨row', after, ?_, ?_⟩⟩
    · rw [hrecords, List.nil_append]
      exact hafter
    · exact returns_pure.mpr ⟨rfl, rfl⟩

end

end Commits

/-! ## The other requests -/

/-- What the requests between the snapshot and the commit leave of the tables. -/
structure Grows (db db' : Database) : Prop where
  ready : db'.metadata.isSome
  writes : db' = db ∨ db.writes.length < db'.writes.length

theorem Grows.write {db db' : Database} (h : Grows db db') (next : StoredReservation) :
    Grows db (db'.write next) := by
  have hwrites : (db'.write next).writes = db'.writes ++ [next] := rfl
  refine ⟨?_, Or.inr ?_⟩
  · have hready := h.ready
    simp only [Database.write, Option.isSome_map]
    exact hready
  · rw [hwrites, List.length_append, List.length_singleton]
    rcases h.writes with rfl | hlonger <;> omega

theorem Grows.longer {db db' after : Database} (h : Grows db db') (next : StoredReservation)
    (hready : after.metadata = (db'.write next).metadata)
    (hwrites : after.writes = (db'.write next).writes) : Grows db after := by
  have hgrows := h.write next
  refine ⟨hready ▸ hgrows.ready, Or.inr ?_⟩
  have hlength : (db'.write next).writes.length = db'.writes.length + 1 := by
    simp [Database.write, Database.save]
  rw [hwrites, hlength]
  rcases h.writes with rfl | hlonger <;> omega

theorem grows_run {db : Database} (hs : Sound db) (hready : db.metadata.isSome)
    (others : List Step) : Grows db (run step db others) := by
  refine (run_keeps (I := Grows db) ?_ ?_ (along_allowed db others) hs ⟨hready, Or.inl rfl⟩).2
  · intro db' h
    have hsame : construct db' = db' := by
      obtain ⟨row, hrow⟩ := Option.isSome_iff_exists.mp h.ready
      unfold construct
      rw [hrow, Option.some_or, ← hrow]
    rw [hsame]
    exact h
  · intro db' after _ heffect h
    cases heffect with
    | create | revise | claim | finish => exact h.longer _ rfl rfl

/-! ## The snapshot -/

theorem find_rows {db : Database} (hs : Sound db) (id : Text) (ids : List Text) :
    (ids.filterMap db.records).find? (fun r => r.reservation.reservationId = id) =
      if id ∈ ids then db.records id else none := by
  induction ids with
  | nil => simp
  | cons x xs ih =>
    rw [List.filterMap_cons]
    cases hrow : db.records x with
    | none =>
      simp only [ih, List.mem_cons]
      by_cases hid : id = x
      · subst hid
        simp [hrow]
      · simp [hid]
    | some r =>
      have hkey := hs.key x r hrow
      simp only [List.find?_cons, List.mem_cons, hkey]
      by_cases hid : x = id
      · subst hid
        simp [hrow]
      · simp [hid, Ne.symm hid, ih]

/-- Records that are read as they are stored. -/
theorem mapM_decode {rs : List StoredReservation} (hnormal : ∀ r ∈ rs, Normal r) :
    ∀ {out : List StoredReservation},
      rs.mapM (fun r => decodeStoredMakerReservation r.encode) = .ok out →
        out = rs ∧ ∀ r ∈ rs, decodeStoredMakerReservation r.encode = .ok r := by
  induction rs with
  | nil =>
    intro out h
    cases h
    exact ⟨rfl, fun r hr => by cases hr⟩
  | cons r rs ih =>
    intro out h
    rw [List.mapM_cons] at h
    obtain ⟨first, hfirst, hothers⟩ := bind_ok.mp h
    obtain ⟨rest, hrest, hout⟩ := bind_ok.mp hothers
    cases hout
    obtain ⟨rfl, hall⟩ := ih (fun other hother => hnormal other (List.mem_cons_of_mem r hother))
      hrest
    obtain ⟨rfl, -⟩ := eq_of_decode_encode (hnormal r List.mem_cons_self) hfirst
    refine ⟨rfl, ?_⟩
    intro other hother
    rcases List.mem_cons.mp hother with rfl | hother
    · exact hfirst
    · exact hall other hother

/-- A snapshot holds the tables that it was taken of. -/
structure Opened (db : Database) (snapshot : Snapshot) : Prop where
  metadata : db.metadata = some ⟨snapshot.revision, snapshot.highWater⟩
  bounded : (snapshot.revision : Int) ≤ maxSafeInteger
  draft : snapshot.draft = ⟨db.records, []⟩
  readable : Readable db

theorem opened {db : Database} (hs : Sound db) (hr : Recorded db) {snapshot : Snapshot}
    (h : openTransaction db = .ok snapshot) : Opened db snapshot := by
  have hnormal : ∀ r ∈ rows db, Normal r := by
    intro r hmem
    obtain ⟨id, -, hrow⟩ := List.mem_filterMap.mp hmem
    exact hs.normal id r hrow
  have hids : ∀ {id r}, db.records id = some r → id ∈ rowIds db := by
    intro id r hrow
    have hmem := List.mem_map_of_mem (f := fun r => r.reservation.reservationId) (hr.current hrow).1
    simp only [hs.key id r hrow] at hmem
    exact List.mem_dedup.mpr hmem
  unfold openTransaction ledgerSnapshot readSnapshot at h
  cases hmetadata : db.metadata with
  | none =>
    rw [hmetadata] at h
    cases h
  | some row =>
    rw [hmetadata] at h
    simp only [bind_ok, throwIf_ok, pure_ok] at h
    obtain ⟨answer, ⟨_, -, read, hread, rfl⟩, _, -, _, hvalid, again, hagain, _, -, rfl⟩ := h
    obtain ⟨rfl, hall⟩ := mapM_decode hnormal hread
    obtain ⟨rfl, -⟩ := mapM_decode hnormal hagain
    refine ⟨hmetadata, ?_, ?_, ?_⟩
    · rw [not_or, not_lt] at hvalid
      exact hvalid.1
    · unfold Snapshot.draft
      congr 1
      funext id
      rw [rows, find_rows hs]
      by_cases hmem : id ∈ rowIds db
      · rw [if_pos hmem]
      · rw [if_neg hmem]
        cases hrow : db.records id with
        | none => rfl
        | some r => exact absurd (hids hrow) hmem
    · intro id r hrow
      exact hall r (List.mem_filterMap.mpr ⟨id, hids hrow, hrow⟩)

/-! ## Transactions -/

section Transactions

variable {α : Type}

/-- Without another request the commit succeeds and the ledger holds what the transaction saw last;
after another one the commit is refused and nothing is stored. -/
structure Serializes (db : Database) (operation : Operation α) (value : α) (draft : Draft) :
    Prop where
  committed : ∀ others, run step db others = db → (serializable db operation others).1 = .ok value ∧
      (serializable db operation others).2.records = draft.records
  refused : ∀ others, run step db others ≠ db →
    (serializable db operation others).2 = run step db others ∧
      (draft.mutations ≠ [] → ∃ error, (serializable db operation others).1 = .error error)

/-- An operation that runs to its end, whose puts are accepted by the protocol over what the
transaction reads. -/
structure Transacts (db : Database) (operation : Operation α) (snapshot : Snapshot) (value : α)
    (draft : Draft) : Prop where
  opens : openTransaction db = .ok snapshot
  runs : operation.run snapshot.highWater snapshot.draft = .ok (value, draft)
  accepted : operation.Accepted snapshot.highWater snapshot.draft

/-- Puts that the ledger takes in one commit: each of another reservation, new ones with the next
fence, and no more than a request holds. -/
structure Single (db : Database) (snapshot : Snapshot) (puts : List Put) : Prop where
  once : (puts.map Put.id).Nodup
  fences : Consecutive db.records snapshot.highWater puts
  limit : puts.length ≤ 100
  fits : byteLength (commitBody snapshot.revision puts) ≤ maxBodyBytes

theorem receive_error {body : Json} {db : Database}
    (h : ∀ answer after, ¬ Returns (commit body) db answer after) :
    ∃ error, receive body db = (.error error, db) := by
  unfold receive
  split
  · exact ⟨_, rfl⟩
  · cases hrun : (commit body).run db with
    | error error => exact ⟨_, rfl⟩
    | ok result => exact absurd hrun (h result.1 result.2)

theorem receive_commitBody {db : Database} (revision : Nat) (hreadable : Readable db)
    (hstable : ∀ m ∈ ms, m.Stable)
    (hpos : ∀ m ∈ ms, ∀ fence, m.expectedFence = some fence → 0 < fence) :
    (byteLength (commitBody revision ms) ≤ maxBodyBytes ∧ Accepts db revision ms ∧
      ∃ after, receive (commitBody revision ms) db = (.ok (), after) ∧
        after.records = ms.foldl setRecord db.records) ∨
    (¬ (byteLength (commitBody revision ms) ≤ maxBodyBytes ∧ Accepts db revision ms) ∧
      ∃ error, receive (commitBody revision ms) db = (.error error, db)) := by
  by_cases hfits : byteLength (commitBody revision ms) ≤ maxBodyBytes
  · by_cases haccepts : Accepts db revision ms
    · left
      obtain ⟨answer, after, hreturns⟩ := returns_commit_of_accepts hreadable hstable hpos haccepts
      refine ⟨hfits, haccepts, after, ?_,
        (accepts_of_returns_commit hreadable hstable hpos ⟨answer, hreturns⟩).2⟩
      unfold receive
      rw [if_neg (Nat.not_lt.mpr hfits), show (commit _).run db = _ from hreturns]
    · right
      refine ⟨fun h => haccepts h.2, receive_error ?_⟩
      intro answer after hreturns
      exact haccepts (accepts_of_returns_commit hreadable hstable hpos ⟨answer, hreturns⟩).1
  · right
    refine ⟨fun h => hfits h.1, "RFQ request is too large.", ?_⟩
    unfold receive
    rw [if_pos (Nat.not_le.mp hfits)]

variable {db : Database} {operation : Operation α} {snapshot : Snapshot} {value : α} {draft : Draft}

theorem Transacts.serializable_eq (h : Transacts db operation snapshot value draft)
    (others : List Step) :
    serializable db operation others = commitDraft snapshot value draft (run step db others) := by
  unfold serializable
  rw [h.opens]
  simp only [h.runs]

theorem Transacts.follows (h : Transacts db operation snapshot value draft)
    (hopened : Opened db snapshot) :
    Follows db.records (operation.puts snapshot.highWater snapshot.draft) draft := by
  have hruns := h.runs
  have haccepted := h.accepted
  rw [hopened.draft] at hruns haccepted ⊢
  exact follows_puts follows_nil haccepted hruns

theorem Follows.mutations_eq_nil {puts : List Put} (h : Follows records puts draft) :
    draft.mutations = [] ↔ puts = [] := by
  constructor
  · intro hnil
    by_contra hne
    obtain ⟨put, hput⟩ := List.exists_mem_of_ne_nil puts hne
    have hmem := (h.mem put.id).mpr (List.mem_map_of_mem hput)
    rw [hnil] at hmem
    cases hmem
  · rintro rfl
    exact h.whole List.nodup_nil

theorem Transacts.accepts_iff (h : Transacts db operation snapshot value draft)
    (hopened : Opened db snapshot) :
    (byteLength (commitBody snapshot.revision draft.mutations) ≤ maxBodyBytes ∧
        Accepts db snapshot.revision draft.mutations) ↔
      Single db snapshot (operation.puts snapshot.highWater snapshot.draft) := by
  have hfollows := h.follows hopened
  constructor
  · rintro ⟨hfits, -, hlimit, row, hrow, -, hcommits⟩
    rw [hopened.metadata] at hrow
    cases hrow
    obtain ⟨honce, hfences⟩ := hfollows.commits_iff.mp hcommits
    rw [hfollows.whole honce] at hfits hlimit
    exact ⟨honce, hfences, hlimit, hfits⟩
  · rintro ⟨honce, hfences, hlimit, hfits⟩
    have hcommits := hfollows.commits_iff.mpr ⟨honce, hfences⟩
    rw [hfollows.whole honce] at hcommits ⊢
    exact ⟨hfits, hopened.bounded, hlimit, _, hopened.metadata, rfl, hcommits⟩

theorem revision_of_returns_commit {now after : Database} {answer : Answer}
    (h : Returns (commit (commitBody revision ms)) now answer after) :
    ∃ row, now.metadata = some row ∧ row.revision = revision := by
  simp only [commit, returns_lift_bind, returns_metadata_bind, returns_assert_bind] at h
  obtain ⟨input, hinput, row, hrow, -, hrevision, -⟩ := h
  obtain ⟨-, -, rfl⟩ := commitInput_commitBody.mp hinput
  have hcast : (row.revision : Int) = (revision : Int) := hrevision
  exact ⟨row, hrow, Int.ofNat.inj hcast⟩

theorem receive_of_changed (steps others : List Step) (ms : List Put)
    (hopened : Opened (reached steps) snapshot)
    (hchanged : run step (reached steps) others ≠ reached steps) :
    ∃ error, receive (commitBody snapshot.revision ms) (run step (reached steps) others) =
      (.error error, run step (reached steps) others) := by
  apply receive_error
  intro answer after hreturns
  obtain ⟨row, hrow, hrevision⟩ := revision_of_returns_commit hreturns
  have hsteps : run step (reached steps) others = reached (steps ++ others) := by
    unfold reached
    rw [run_append]
  have hready : (reached steps).metadata.isSome := by
    rw [hopened.metadata]
    rfl
  have hmore : (reached steps).writes.length < (run step (reached steps) others).writes.length :=
    (grows_run (sound_run sound_empty steps) hready others).writes.resolve_left hchanged
  have hbefore := (recorded_reached steps).revision _ hopened.metadata
  rw [hsteps] at hrow
  have hafter := (recorded_reached (steps ++ others)).revision row hrow
  rw [← hsteps] at hafter
  simp only at hbefore
  omega

theorem commitDraft_of_ne_nil (hne : draft.mutations ≠ []) (now : Database) :
    commitDraft snapshot value draft now =
      ((receive (commitBody snapshot.revision draft.mutations) now).1.map fun _ => value,
        (receive (commitBody snapshot.revision draft.mutations) now).2) := by
  unfold commitDraft
  rw [if_neg hne]

/-- What a transaction does after another request changed the ledger. -/
theorem Transacts.refused {steps : List Step}
    (h : Transacts (reached steps) operation snapshot value draft)
    (hopened : Opened (reached steps) snapshot) (others : List Step)
    (hchanged : run step (reached steps) others ≠ reached steps) :
    (serializable (reached steps) operation others).2 = run step (reached steps) others ∧
      (draft.mutations ≠ [] →
        ∃ error, (serializable (reached steps) operation others).1 = .error error) := by
  rw [h.serializable_eq]
  by_cases hnil : draft.mutations = []
  · unfold commitDraft
    rw [if_pos hnil]
    exact ⟨rfl, fun hne => absurd hnil hne⟩
  · obtain ⟨error, herror⟩ := receive_of_changed steps others draft.mutations hopened hchanged
    rw [commitDraft_of_ne_nil hnil, herror]
    exact ⟨rfl, fun _ => ⟨error, rfl⟩⟩

theorem Transacts.serializes_iff {steps : List Step}
    (h : Transacts (reached steps) operation snapshot value draft) :
    Serializes (reached steps) operation value draft ↔
      operation.puts snapshot.highWater snapshot.draft = [] ∨
        Single (reached steps) snapshot (operation.puts snapshot.highWater snapshot.draft) := by
  have hopened : Opened (reached steps) snapshot :=
    opened (sound_run sound_empty steps) (recorded_reached steps) h.opens
  have hfollows := h.follows hopened
  have hreceive := receive_commitBody snapshot.revision hopened.readable hfollows.stable
    hfollows.fences
  constructor
  · intro hserializes
    by_cases hnil : operation.puts snapshot.highWater snapshot.draft = []
    · exact Or.inl hnil
    · right
      obtain ⟨hvalue, -⟩ := hserializes.committed [] rfl
      have hne := fun heq => hnil (hfollows.mutations_eq_nil.mp heq)
      rw [h.serializable_eq, commitDraft_of_ne_nil hne] at hvalue
      rcases hreceive with ⟨hfits, haccepts, -⟩ | ⟨-, error, herror⟩
      · exact (h.accepts_iff hopened).mp ⟨hfits, haccepts⟩
      · rw [show run step (reached steps) [] = reached steps from rfl, herror] at hvalue
        cases hvalue
  · intro hputs
    refine ⟨?_, fun others => h.refused hopened others⟩
    intro others hsame
    rw [h.serializable_eq, hsame, hfollows.view]
    by_cases hnil : draft.mutations = []
    · unfold commitDraft
      rw [if_pos hnil, hfollows.mutations_eq_nil.mp hnil]
      exact ⟨rfl, rfl⟩
    · have hsingle := hputs.resolve_left fun heq => hnil (hfollows.mutations_eq_nil.mpr heq)
      rcases hreceive with ⟨-, -, after, hafter, hrecords⟩ | ⟨hnot, -⟩
      · rw [commitDraft_of_ne_nil hnil, hafter]
        rw [hfollows.whole hsingle.once] at hrecords
        exact ⟨rfl, hrecords⟩
      · exact absurd ((h.accepts_iff hopened).mpr hsingle) hnot

/-- For every state of the ledger and every operation whose puts the protocol accepts, the
transaction is serializable exactly when nothing was put or each reservation was put once, new ones
with the next fence, in a request that the ledger reads. -/
theorem serializable_iff (steps : List Step) (operation : Operation α) (snapshot : Snapshot)
    (value : α) (draft : Draft) (h : Transacts (reached steps) operation snapshot value draft) :
    Serializes (reached steps) operation value draft ↔
      operation.puts snapshot.highWater snapshot.draft = [] ∨
        Single (reached steps) snapshot (operation.puts snapshot.highWater snapshot.draft) :=
  h.serializes_iff

/-! ## A reservation that is put again -/

def emptySnapshot : Snapshot := ⟨0, 0, []⟩

theorem opens_empty : openTransaction (reached [.restart]) = .ok emptySnapshot := by decide +kernel

theorem sampleRecord_decode :
    decodeStoredMakerReservation sampleRecord.encode = .ok sampleRecord := by decide +kernel

theorem sampleSelected_decode :
    decodeStoredMakerReservation sampleSelected.encode = .ok sampleSelected := by decide +kernel

def createdPut : Put := ⟨sampleRecord, none⟩

def selectedPut : Put := ⟨sampleSelected, some 1⟩

theorem createdPut_revises : createdPut.Revises none := by
  change assertMakerReservationMutation _ _ _ = _
  decide +kernel

theorem selectedPut_revises : selectedPut.Revises (some sampleRecord) := by
  change assertMakerReservationMutation _ _ _ = _
  decide +kernel

theorem put_created {draft : Draft} (h : draft.records createdPut.id = none) :
    draft.put sampleRecord.encode none = .ok createdPut := by
  apply Draft.put_of_revises sampleRecord_decode
  change createdPut.Revises (draft.records createdPut.id)
  rw [h]
  exact createdPut_revises

theorem read_created (draft : Draft) :
    (draft.set createdPut).records sampleSelected.reservation.reservationId =
      some sampleRecord := by
  change Function.update draft.records createdPut.id (some sampleRecord) createdPut.id = _
  exact Function.update_self ..

theorem put_selected (draft : Draft) :
    (draft.set createdPut).put sampleSelected.encode (some 1) = .ok selectedPut := by
  apply Draft.put_of_revises sampleSelected_decode
  rw [read_created]
  exact selectedPut_revises

/-- The maker's first reservation. -/
def create : Operation Unit := .put sampleRecord.encode none fun _ => .done ()

/-- The first reservation, and its selection in the same transaction. -/
def createAndSelect : Operation Unit :=
  .put sampleRecord.encode none fun _ => .put sampleSelected.encode (some 1) fun _ => .done ()

theorem transacts_create :
    Transacts (reached [.restart]) create emptySnapshot ()
      (emptySnapshot.draft.set createdPut) := by
  refine ⟨opens_empty, ?_, sampleRecord, sampleRecord_decode, createdPut_revises, trivial⟩
  rw [create, Operation.run, put_created rfl]
  rfl

theorem transacts_createAndSelect :
    Transacts (reached [.restart]) createAndSelect emptySnapshot ()
      ((emptySnapshot.draft.set createdPut).set selectedPut) := by
  refine ⟨opens_empty, ?_, sampleRecord, sampleRecord_decode, createdPut_revises, sampleSelected,
    sampleSelected_decode, ?_, trivial⟩
  · rw [createAndSelect, Operation.run, put_created rfl]
    simp only [Operation.run, put_selected]
  · change selectedPut.Revises ((emptySnapshot.draft.set createdPut).records
      sampleSelected.reservation.reservationId)
    rw [read_created]
    exact selectedPut_revises

theorem serializable_create :
    Serializes (reached [.restart]) create () (emptySnapshot.draft.set createdPut) ↔
      create.puts emptySnapshot.highWater emptySnapshot.draft = [] ∨
        Single (reached [.restart]) emptySnapshot
          (create.puts emptySnapshot.highWater emptySnapshot.draft) :=
  serializable_iff [.restart] create emptySnapshot () _ transacts_create

/-- A reservation that is created and selected in one transaction: both puts are accepted, the new
record has the next fence, and the commit is refused. -/
theorem serializable_not :
    Transacts (reached [.restart]) createAndSelect emptySnapshot ()
        ((emptySnapshot.draft.set createdPut).set selectedPut) ∧
      sampleRecord.reservation.fence = emptySnapshot.highWater + 1 ∧
      ¬ Serializes (reached [.restart]) createAndSelect ()
        ((emptySnapshot.draft.set createdPut).set selectedPut) := by
  refine ⟨transacts_createAndSelect, rfl, ?_⟩
  have hputs : createAndSelect.puts emptySnapshot.highWater emptySnapshot.draft =
      [createdPut, selectedPut] := by
    rw [createAndSelect, Operation.puts, put_created rfl]
    simp only [Operation.puts, put_selected]
  rw [transacts_createAndSelect.serializes_iff, hputs]
  rintro (hnil | hsingle)
  · cases hnil
  · have honce := hsingle.once
    rw [List.map_cons, List.nodup_cons] at honce
    exact honce.1 List.mem_cons_self

end Transactions

end App20.Reservation.Repository
