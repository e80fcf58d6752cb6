import App20.Lib.Utf8
import App20.Lib.Utf16
import App20.Reservation.History

/-!
# Transactions over the ledger

A maker's repository reads a snapshot of the ledger, lets an operation get and put reservations in a
draft, and commits the draft with one mutation for each reservation that was put.

* `Follows`: what a draft holds after puts that are all accepted.
* `follows_puts`: the draft that an operation leaves.
-/

namespace App20.Reservation.Repository

open App20.Lib App20.Lib.Exec App20.Domain

/-! ## Sizes -/

mutual

/-- `ledgerStringify` -/
def ledgerText : Json → Text
  | .null | .fraction => "null".toList
  | .bool b => if b then "true".toList else "false".toList
  | .number n => decimal n
  | .bigint n => "\x7b\"$app20BigInt\":\"".toList ++ decimal n ++ "\"\x7d".toList
  | .string s => quoteUnits (toUnits s)
  | .array items => '[' :: (itemTexts true items ++ [']'])
  | .object fields => '{' :: (fieldTexts true fields ++ ['}'])

/-- From the `first` item on, or from a later one. -/
def itemTexts (first : Bool) : List Json → Text
  | [] => []
  | item :: items => (if first then [] else [',']) ++ (ledgerText item ++ itemTexts false items)

def fieldTexts (first : Bool) : List (String × Json) → Text
  | [] => []
  | field :: fields => (if first then [] else [',']) ++
      (quoteUnits (toUnits field.1.toList) ++ (':' :: (ledgerText field.2 ++
        fieldTexts false fields)))

end

def byteLength (value : Json) : Nat := (encodeUtf8 (ledgerText value)).length

def maxLedgerResponseBytes : Nat := 1048576

/-- `RFQ_MAX_BODY_BYTES` -/
def maxBodyBytes : Nat := 96 * 1024

/-! ## Snapshots -/

structure Snapshot where
  revision : Nat
  highWater : Int
  records : List StoredReservation
  deriving DecidableEq

def rowIds (db : Database) : List Text := (db.writes.map fun r => r.reservation.reservationId).dedup

def rows (db : Database) : List StoredReservation := (rowIds db).filterMap db.records

def snapshotJson (snapshot : Snapshot) : Json :=
  .object [("revision", .number snapshot.revision),
    ("highWater", .string (decimal snapshot.highWater)),
    ("records", .array (snapshot.records.map StoredReservation.encode))]

/-- The answer of the ledger, whose rows are read. -/
def ledgerSnapshot (db : Database) : Except String Snapshot :=
  match db.metadata with
  | none => .error LedgerError.metadataUnavailable.message
  | some row => do
    throwIf (maxSafeInteger < (row.revision : Int)) LedgerError.metadataUnavailable.message
    let records ← (rows db).mapM fun r => decodeStoredMakerReservation r.encode
    return ⟨row.revision, row.highWater, records⟩

/-- What the repository makes of the answer. -/
def readSnapshot (answer : Snapshot) : Except String Snapshot := do
  throwIf (maxLedgerResponseBytes < byteLength (snapshotJson answer))
    "Durable reservation ledger response exceeds the bounded size."
  throwIf (maxSafeInteger < (answer.revision : Int) ∨ answer.highWater < 0)
    "Durable reservation ledger snapshot is invalid."
  let records ← answer.records.mapM fun r => decodeStoredMakerReservation r.encode
  throwIf (¬ (records.map fun r => r.reservation.reservationId).Nodup)
    "Durable reservation ledger snapshot contains invalid or duplicate records."
  return ⟨answer.revision, answer.highWater, records⟩

def openTransaction (db : Database) : Except String Snapshot := do
  let answer ← ledgerSnapshot db
  readSnapshot answer

/-! ## Drafts -/

/-- A record that is stored, and the fence that its stored version must have. -/
structure Put where
  record : StoredReservation
  expectedFence : Option Int

def Put.id (put : Put) : Text := put.record.reservation.reservationId

/-- The maps of a transaction: the records, and the mutations in the order of their first puts. -/
structure Draft where
  records : Text → Option StoredReservation
  mutations : List Put

def Snapshot.draft (snapshot : Snapshot) : Draft :=
  ⟨fun id => snapshot.records.find? fun r => r.reservation.reservationId = id, []⟩

/-- `mutations.set`: an entry that is there keeps its place. -/
def setMutation (put : Put) : List Put → List Put
  | [] => [put]
  | m :: ms =>
    if m.id = put.id then ⟨put.record, m.expectedFence <|> put.expectedFence⟩ :: ms
    else m :: setMutation put ms

/-- `records.set` -/
def setRecord (records : Text → Option StoredReservation) (put : Put) :
    Text → Option StoredReservation := Function.update records put.id (some put.record)

def Draft.set (draft : Draft) (put : Put) : Draft :=
  ⟨setRecord draft.records put, setMutation put draft.mutations⟩

def fenceOf (record : Option StoredReservation) : Option Int := record.map (·.reservation.fence)

/-- The compare-and-swap of `put`. -/
def swaps (current : Option StoredReservation) : Option Int → Bool
  | none => current.isNone
  | some expectedFence => fenceOf current = some expectedFence

def Draft.put (draft : Draft) (rawRecord : Json) (expectedFence : Option Int) :
    Except String Put := do
  let record ← decodeStoredMakerReservation rawRecord
  throwIf (swaps (draft.records record.reservation.reservationId) expectedFence = false)
    "Reservation fence compare-and-swap failed."
  return ⟨record, expectedFence⟩

/-! ## Operations -/

/-- What an operation does with its transaction. What it does next depends on what it is answered;
an error of a put may be caught. -/
inductive Operation (α : Type) where
  | done (value : α)
  | fail (error : String)
  | get (id : Text) (rest : Option StoredReservation → Operation α)
  | nextFence (rest : Int → Operation α)
  | put (rawRecord : Json) (expectedFence : Option Int) (rest : Except String Unit → Operation α)

variable {α : Type}

def Operation.run (highWater : Int) : Operation α → Draft → Except String (α × Draft)
  | done value, draft => .ok (value, draft)
  | fail error, _ => .error error
  | get id rest, draft => (rest (draft.records id)).run highWater draft
  | nextFence rest, draft => (rest (highWater + 1)).run highWater draft
  | put rawRecord expectedFence rest, draft =>
    match draft.put rawRecord expectedFence with
    | .error error => (rest (.error error)).run highWater draft
    | .ok write => (rest (.ok ())).run highWater (draft.set write)

/-! ## Commits -/

def Put.encode (put : Put) : Json :=
  .object [("record", put.record.encode),
    ("expectedFence", (put.expectedFence.map fun fence => Json.string (decimal fence)).getD .null)]

def commitBody (revision : Nat) (mutations : List Put) : Json :=
  .object [("expectedRevision", .number revision), ("mutations", .array (mutations.map Put.encode))]

/-- The answer of the ledger to a commit, and its tables afterwards. -/
def receive (body : Json) (db : Database) : Except String Unit × Database :=
  if maxBodyBytes < byteLength body then (.error "RFQ request is too large.", db)
  else
    match (commit body).run db with
    | .ok (_, db') => (.ok (), db')
    | .error error => (.error error.message, db)

/-- What comes after the operation; the ledger may have other tables by then. -/
def commitDraft (snapshot : Snapshot) (value : α) (draft : Draft) (db : Database) :
    Except String α × Database :=
  if draft.mutations = [] then (.ok value, db)
  else
    let (answer, after) := receive (commitBody snapshot.revision draft.mutations) db
    (answer.map fun _ => value, after)

/-- A transaction, with the requests that the ledger answers between the snapshot and the commit. -/
def serializable (db : Database) (operation : Operation α) (others : List Step) :
    Except String α × Database :=
  match openTransaction db with
  | .error error => (.error error, run step db others)
  | .ok snapshot =>
    match operation.run snapshot.highWater snapshot.draft with
    | .error error => (.error error, run step db others)
    | .ok (value, draft) => commitDraft snapshot value draft (run step db others)

/-! ## Accepted puts -/

/-- `assertMakerReservationMutation` accepts the put over a version. -/
def Put.Revises (put : Put) (current : Option StoredReservation) : Prop :=
  assertMakerReservationMutation (current.map (·.reservation)) put.record.reservation
    put.expectedFence = .ok ()

def Operation.Accepted (highWater : Int) : Operation α → Draft → Prop
  | done _, _ | fail _, _ => True
  | get id rest, draft => (rest (draft.records id)).Accepted highWater draft
  | nextFence rest, draft => (rest (highWater + 1)).Accepted highWater draft
  | put rawRecord expectedFence rest, draft =>
    ∃ record, decodeStoredMakerReservation rawRecord = .ok record ∧
      (Put.mk record expectedFence).Revises (draft.records record.reservation.reservationId) ∧
      (rest (.ok ())).Accepted highWater (draft.set ⟨record, expectedFence⟩)

def Operation.puts (highWater : Int) : Operation α → Draft → List Put
  | done _, _ | fail _, _ => []
  | get id rest, draft => (rest (draft.records id)).puts highWater draft
  | nextFence rest, draft => (rest (highWater + 1)).puts highWater draft
  | put rawRecord expectedFence rest, draft =>
    match draft.put rawRecord expectedFence with
    | .error error => (rest (.error error)).puts highWater draft
    | .ok write => write :: (rest (.ok ())).puts highWater (draft.set write)

/-- A put that reads as it is written. -/
def Put.Stable (put : Put) : Prop := decodeStoredMakerReservation put.record.encode = .ok put.record

theorem fence_pos {r : MakerReservation} (h : assertReservation r = .ok ()) : 0 < r.fence := by
  simp only [assertReservation, checkRequired, bind_ok, throwIf_ok] at h
  obtain ⟨_, h, _⟩ := h
  obtain ⟨_, -, _, -, _, -, _, -, _, -, _, -, _, -, _, -, _, -, _, -, hfence⟩ := h
  omega

theorem Put.Revises.expectedFence {put : Put} {current : Option StoredReservation}
    (h : put.Revises current) : put.expectedFence = fenceOf current := by
  cases current with
  | none => exact (mutation_create_ok h).1
  | some record => exact (mutation_revise_ok h).1

theorem Put.Revises.expectedFence_pos {put : Put} {current : Option StoredReservation}
    (h : put.Revises current) {fence : Int} (hfence : put.expectedFence = some fence) :
    0 < fence := by
  rw [h.expectedFence] at hfence
  cases current with
  | none => cases hfence
  | some record =>
    cases hfence
    exact fence_pos (mutation_revise_ok h).2.2.valid

/-- The transaction takes a put that is accepted. -/
theorem Draft.put_of_revises {draft : Draft} {rawRecord : Json} {record : StoredReservation}
    {expectedFence : Option Int} (hrecord : decodeStoredMakerReservation rawRecord = .ok record)
    (h : (Put.mk record expectedFence).Revises (draft.records record.reservation.reservationId)) :
    draft.put rawRecord expectedFence = .ok ⟨record, expectedFence⟩ := by
  have hfence := h.expectedFence
  simp only at hfence
  have hswaps : swaps (draft.records record.reservation.reservationId) expectedFence = true := by
    rw [hfence]
    cases draft.records record.reservation.reservationId <;> simp [fenceOf, swaps]
  unfold Draft.put
  rw [hrecord, ok_bind, throwIf_neg (by simp [hswaps])]
  rfl

/-! ## Mutations -/

theorem setMutation_of_not_mem {put : Put} {mutations : List Put}
    (h : put.id ∉ mutations.map Put.id) : setMutation put mutations = mutations ++ [put] := by
  induction mutations with
  | nil => rfl
  | cons m ms ih =>
    rw [List.map_cons, List.mem_cons, not_or] at h
    rw [setMutation, if_neg (Ne.symm h.1), ih h.2, List.cons_append]

theorem setMutation_ids {put : Put} {mutations : List Put} (h : put.id ∈ mutations.map Put.id) :
    (setMutation put mutations).map Put.id = mutations.map Put.id := by
  induction mutations with
  | nil => cases h
  | cons m ms ih =>
    rw [setMutation]
    split
    · rename_i hid
      rw [List.map_cons, List.map_cons, hid]
      rfl
    · rename_i hid
      rw [List.map_cons, List.mem_cons] at h
      rw [List.map_cons, List.map_cons, ih (h.resolve_left (Ne.symm hid))]

/-- A mutation of another reservation stays, that of the same one gets the new record. -/
theorem mem_setMutation {put m : Put} {mutations : List Put}
    (hnodup : (mutations.map Put.id).Nodup) (hput : put.id ∈ mutations.map Put.id)
    (h : m ∈ setMutation put mutations) :
    (m ∈ mutations ∧ m.id ≠ put.id) ∨ ∃ first ∈ mutations, first.id = put.id ∧
        m = ⟨put.record, first.expectedFence <|> put.expectedFence⟩ := by
  induction mutations with
  | nil => cases hput
  | cons first ms ih =>
    rw [List.map_cons, List.nodup_cons] at hnodup
    rw [setMutation] at h
    split at h
    · rename_i hid
      rcases List.mem_cons.mp h with rfl | hm
      · exact Or.inr ⟨first, List.mem_cons_self, hid, rfl⟩
      · refine Or.inl ⟨List.mem_cons_of_mem first hm, ?_⟩
        intro heq
        apply hnodup.1
        rw [hid, ← heq]
        exact List.mem_map_of_mem hm
    · rename_i hid
      rcases List.mem_cons.mp h with rfl | hm
      · exact Or.inl ⟨List.mem_cons_self, hid⟩
      · rw [List.map_cons, List.mem_cons] at hput
        rcases ih hnodup.2 (hput.resolve_left (Ne.symm hid)) hm with ⟨hmem, hne⟩ |
            ⟨other, hother, heq⟩
        · exact Or.inl ⟨List.mem_cons_of_mem first hmem, hne⟩
        · exact Or.inr ⟨other, List.mem_cons_of_mem first hother, heq⟩

/-! ## Drafts after puts -/

/-- A mutation that the ledger refuses: it expects a version of a new reservation, or skips one of a
stored reservation. -/
def Put.Folded (put : Put) (current : Option StoredReservation) : Prop :=
  match current with
  | none => put.expectedFence ≠ none
  | some record => record.reservation.fence + 2 ≤ put.record.reservation.fence

theorem Put.Folded.not_revises {put : Put} {current : Option StoredReservation}
    (h : put.Folded current) : ¬ put.Revises current := by
  intro hrevises
  cases current with
  | none => exact h hrevises.expectedFence
  | some record =>
    have hfence : put.record.reservation.fence = record.reservation.fence + 1 :=
      (mutation_revise_ok hrevises).2.2.fence_eq
    have hskips : record.reservation.fence + 2 ≤ put.record.reservation.fence := h
    omega

def countOf (id : Text) (puts : List Put) : Nat := (puts.map Put.id).count id

/-- A draft against the records that it began with and its puts. A mutation of a reservation that
was put once is that put; of one that was put again it is folded. -/
structure Follows (records : Text → Option StoredReservation) (puts : List Put) (draft : Draft) :
    Prop where
  ids : (draft.mutations.map Put.id).Nodup
  mem : ∀ id, id ∈ draft.mutations.map Put.id ↔ id ∈ puts.map Put.id
  current : ∀ m ∈ draft.mutations, draft.records m.id = some m.record
  untouched : ∀ id, id ∉ puts.map Put.id → draft.records id = records id
  view : draft.records = puts.foldl setRecord records
  stable : ∀ m ∈ draft.mutations, m.Stable
  fences : ∀ m ∈ draft.mutations, ∀ fence, m.expectedFence = some fence → 0 < fence
  entry : ∀ m ∈ draft.mutations, (countOf m.id puts = 1 ∧ m.Revises (records m.id)) ∨
      (1 < countOf m.id puts ∧ m.Folded (records m.id))
  whole : (puts.map Put.id).Nodup → draft.mutations = puts

section Follows

variable {records : Text → Option StoredReservation} {puts : List Put} {draft : Draft} {put : Put}

theorem follows_nil : Follows records [] ⟨records, []⟩ where
  ids := List.nodup_nil
  mem _ := Iff.rfl
  current _ h := by cases h
  untouched _ _ := rfl
  view := rfl
  stable _ h := by cases h
  fences _ h := by cases h
  entry _ h := by cases h
  whole _ := rfl

theorem countOf_append_of_ne {id : Text} (h : id ≠ put.id) :
    countOf id (puts ++ [put]) = countOf id puts := by
  unfold countOf
  have hnone : [put.id].count id = 0 := List.count_eq_zero.mpr (by simpa using h)
  rw [List.map_append, List.count_append, List.map_singleton, hnone, Nat.add_zero]

theorem countOf_append_self : countOf put.id (puts ++ [put]) = countOf put.id puts + 1 := by
  unfold countOf
  rw [List.map_append, List.count_append, List.map_singleton, List.count_singleton_self]

theorem mem_ids_append {id : Text} :
    id ∈ (puts ++ [put]).map Put.id ↔ id ∈ puts.map Put.id ∨ id = put.id := by
  rw [List.map_append, List.mem_append, List.map_singleton, List.mem_singleton]

theorem view_append :
    (puts ++ [put]).foldl setRecord records = setRecord (puts.foldl setRecord records) put := by
  rw [List.foldl_append]
  rfl

section

variable (h : Follows records puts draft) (hstable : put.Stable)
  (hrevises : put.Revises (draft.records put.id))

include h hstable hrevises

theorem Follows.first (hnew : put.id ∉ puts.map Put.id) :
    Follows records (puts ++ [put]) (draft.set put) := by
  have hid : put.id ∉ draft.mutations.map Put.id := fun hmem => hnew ((h.mem _).mp hmem)
  have hset : (draft.set put).mutations = draft.mutations ++ [put] := setMutation_of_not_mem hid
  have hsame := h.untouched put.id hnew
  have hne : ∀ m ∈ draft.mutations, m.id ≠ put.id := by
    intro m hm heq
    exact hid (heq ▸ List.mem_map_of_mem hm)
  refine ⟨?_, ?_, ?_, ?_, ?_, ?_, ?_, ?_, ?_⟩
  · rw [hset, List.map_append, List.map_singleton]
    exact h.ids.append (List.nodup_singleton _) (List.disjoint_singleton.mpr hid)
  · intro id
    rw [hset, mem_ids_append, mem_ids_append, h.mem]
  · intro m hm
    rw [hset] at hm
    rcases List.mem_append.mp hm with hm | hm
    · rw [← h.current m hm]
      exact Function.update_of_ne (hne m hm) ..
    · rw [List.mem_singleton.mp hm]
      exact Function.update_self ..
  · intro id hmem
    rw [mem_ids_append, not_or] at hmem
    rw [← h.untouched id hmem.1]
    exact Function.update_of_ne hmem.2 ..
  · rw [view_append, ← h.view]
    rfl
  · intro m hm
    rw [hset] at hm
    rcases List.mem_append.mp hm with hm | hm
    · exact h.stable m hm
    · rw [List.mem_singleton.mp hm]
      exact hstable
  · intro m hm fence hfence
    rw [hset] at hm
    rcases List.mem_append.mp hm with hm | hm
    · exact h.fences m hm fence hfence
    · rw [List.mem_singleton.mp hm] at hfence
      exact hrevises.expectedFence_pos hfence
  · intro m hm
    rw [hset] at hm
    rcases List.mem_append.mp hm with hm | hm
    · rw [countOf_append_of_ne (hne m hm)]
      exact h.entry m hm
    · rw [List.mem_singleton.mp hm, countOf_append_self, countOf, List.count_eq_zero.mpr hnew]
      exact Or.inl ⟨rfl, hsame ▸ hrevises⟩
  · intro hnodup
    rw [hset, h.whole (List.Nodup.of_append_left (by rwa [List.map_append] at hnodup))]

theorem Follows.again (hold : put.id ∈ puts.map Put.id) :
    Follows records (puts ++ [put]) (draft.set put) := by
  have hid : put.id ∈ draft.mutations.map Put.id := (h.mem _).mpr hold
  have hids : (draft.set put).mutations.map Put.id = draft.mutations.map Put.id :=
    setMutation_ids hid
  have hcases : ∀ m ∈ (draft.set put).mutations, (m ∈ draft.mutations ∧ m.id ≠ put.id) ∨
      ∃ first ∈ draft.mutations, first.id = put.id ∧
        m = ⟨put.record, first.expectedFence <|> put.expectedFence⟩ :=
    fun m hm => mem_setMutation h.ids hid hm
  refine ⟨?_, ?_, ?_, ?_, ?_, ?_, ?_, ?_, ?_⟩
  · rw [hids]
    exact h.ids
  · intro id
    rw [hids, mem_ids_append, h.mem]
    exact ⟨Or.inl, fun hor => hor.elim (fun hmem => hmem) fun heq => heq ▸ hold⟩
  · intro m hm
    rcases hcases m hm with ⟨hmem, hne⟩ | ⟨first, -, -, rfl⟩
    · rw [← h.current m hmem]
      exact Function.update_of_ne hne ..
    · exact Function.update_self ..
  · intro id hmem
    rw [mem_ids_append, not_or] at hmem
    rw [← h.untouched id hmem.1]
    exact Function.update_of_ne hmem.2 ..
  · rw [view_append, ← h.view]
    rfl
  · intro m hm
    rcases hcases m hm with ⟨hmem, -⟩ | ⟨first, -, -, rfl⟩
    · exact h.stable m hmem
    · exact hstable
  · intro m hm fence hfence
    rcases hcases m hm with ⟨hmem, -⟩ | ⟨first, hfirst, -, rfl⟩
    · exact h.fences m hmem fence hfence
    · cases hexpected : first.expectedFence with
      | none =>
        simp only [hexpected] at hfence
        exact hrevises.expectedFence_pos hfence
      | some f =>
        simp only [hexpected] at hfence
        cases hfence
        exact h.fences first hfirst _ hexpected
  · intro m hm
    rcases hcases m hm with ⟨hmem, hne⟩ | ⟨first, hfirst, hfirstId, rfl⟩
    · rw [countOf_append_of_ne hne]
      exact h.entry m hmem
    · right
      have hcount : countOf put.id (puts ++ [put]) = countOf put.id puts + 1 := countOf_append_self
      have hpos : 0 < countOf put.id puts := List.count_pos_iff.mpr hold
      have hcurrent := h.current first hfirst
      rw [hfirstId] at hcurrent
      rw [hcurrent] at hrevises
      have hrevised := mutation_revise_ok hrevises
      have hnext : put.record.reservation.fence = first.record.reservation.fence + 1 :=
        hrevised.2.2.fence_eq
      have hentry := h.entry first hfirst
      rw [hfirstId] at hentry
      refine ⟨?_, ?_⟩
      · change 1 < countOf put.id (puts ++ [put])
        omega
      · change Put.Folded ⟨put.record, first.expectedFence <|> put.expectedFence⟩ (records put.id)
        cases hstored : records put.id with
        | none =>
          change (first.expectedFence <|> put.expectedFence) ≠ none
          rw [hrevised.1]
          cases first.expectedFence <;> simp
        | some record =>
          change record.reservation.fence + 2 ≤ put.record.reservation.fence
          rw [hstored] at hentry
          rcases hentry with ⟨-, honce⟩ | ⟨-, hfolded⟩
          · have honceFence : first.record.reservation.fence = record.reservation.fence + 1 :=
              (mutation_revise_ok honce).2.2.fence_eq
            omega
          · have hfoldedFence : record.reservation.fence + 2 ≤ first.record.reservation.fence :=
              hfolded
            omega
  · intro hnodup
    rw [List.map_append, List.map_singleton] at hnodup
    exact absurd hold (List.disjoint_singleton.mp (List.disjoint_of_nodup_append hnodup))

theorem Follows.set : Follows records (puts ++ [put]) (draft.set put) := by
  by_cases hold : put.id ∈ puts.map Put.id
  · exact h.again hstable hrevises hold
  · exact h.first hstable hrevises hold

end

end Follows

theorem follows_puts {records : Text → Option StoredReservation} {highWater : Int}
    {operation : Operation α} {value : α} {final : Draft} :
    ∀ {puts : List Put} {draft : Draft}, Follows records puts draft →
      operation.Accepted highWater draft → operation.run highWater draft = .ok (value, final) →
      Follows records (puts ++ operation.puts highWater draft) final := by
  induction operation with
  | done value =>
    intro puts draft h _ hrun
    cases hrun
    rw [Operation.puts, List.append_nil]
    exact h
  | fail error =>
    intro puts draft _ _ hrun
    cases hrun
  | get id rest ih =>
    intro puts draft h haccepted hrun
    exact ih (draft.records id) h haccepted hrun
  | nextFence rest ih =>
    intro puts draft h haccepted hrun
    exact ih (highWater + 1) h haccepted hrun
  | put rawRecord expectedFence rest ih =>
    intro puts draft h haccepted hrun
    obtain ⟨record, hrecord, hrevises, hrest⟩ := haccepted
    have hput := Draft.put_of_revises hrecord hrevises
    rw [Operation.run, hput] at hrun
    rw [Operation.puts, hput]
    have hstep := ih (.ok ()) (h.set (decode_encode hrecord) hrevises) hrest hrun
    rw [List.append_assoc] at hstep
    exact hstep

end App20.Reservation.Repository
