import App20.Lib.Run
import App20.Reservation.Codec
import Mathlib.Data.Char
import Mathlib.Data.List.Lex
import Mathlib.Data.List.Sort

/-!
# The reservation ledger

The Durable Object that stores reservations and value-moving attempts: its three tables, and the
requests `commit`, `begin`, `complete` and `recover`. Each request is one storage transaction, so
an error, of the request or of the storage, leaves the tables as they were.
-/

namespace App20.Reservation

open App20.Lib App20.Lib.Exec App20.Domain

/-! ## Tables -/

structure MetadataRow where
  revision : Nat
  highWater : Int

inductive AttemptStatus where
  | pending | completed
  deriving DecidableEq

inductive AttemptOutcome where
  | consumed (transactionHash : Text)
  | unknown (reason : Text)
  deriving DecidableEq

structure AttemptRow where
  idempotencyKey : Text
  reservationId : Text
  selectionFence : Text
  payloadDigest : Text
  status : AttemptStatus
  outcome : Option AttemptOutcome

/-- The tables. A row of the records is what its `record_json` encodes; the columns for fence and
state repeat it. -/
structure Database where
  metadata : Option MetadataRow
  records : Text → Option StoredReservation
  attempts : List AttemptRow
  /-- Every version of a record that was ever stored, in order; no request reads it. -/
  writes : List StoredReservation

/-- Before the first construction of the object. -/
def Database.empty : Database := ⟨none, fun _ => none, [], []⟩

/-- The constructor of the object: create what is not there yet. -/
def construct (db : Database) : Database :=
  { db with metadata := db.metadata.or (some ⟨0, 0⟩) }

inductive LedgerError where
  | invalidTransaction
  | invalidBinding
  | invalidFence
  | invalidTimestamp
  | invalidOutcome
  | metadataUnavailable
  | staleRevision
  | repeatedRecord
  | notNextFence
  | reusedKey
  | lostTombstone
  | pendingMismatch
  | missingReservation
  | staleFence
  | notClaimed
  | completionMismatch
  /-- An error of the codec or of the reservation protocol. -/
  | rejected (message : String)
  deriving DecidableEq

def LedgerError.message : LedgerError → String
  | .invalidTransaction => "Invalid reservation transaction."
  | .invalidBinding => "Invalid value-moving attempt binding."
  | .invalidFence => "expectedFence must be a positive bigint string."
  | .invalidTimestamp => "attempt recovery at must be a positive unix-seconds timestamp."
  | .invalidOutcome => "Attempt outcome must be consumed or unknown."
  | .metadataUnavailable => "Reservation ledger metadata is unavailable."
  | .staleRevision => "Reservation transaction revision is stale."
  | .repeatedRecord => "Reservation transaction repeats a record."
  | .notNextFence => "New reservation fence did not use the next durable high-water token."
  | .reusedKey => "Idempotency key was reused with a conflicting payload."
  | .lostTombstone => "Pending attempt lost its reservation tombstone."
  | .pendingMismatch => "Pending attempt does not match reservation state."
  | .missingReservation => "Reservation does not exist."
  | .staleFence => "Reservation fence compare-and-swap failed: stale fence."
  | .notClaimed => "Value-moving attempt was not claimed."
  | .completionMismatch => "Attempt completion does not match reservation state."
  | .rejected message => message

abbrev LedgerM := Exec LedgerError Database

/-! ## Access to the tables -/

/-- A check of the codec or the protocol. -/
def checked {α : Type} (x : Except String α) : LedgerM α := lift (x.mapError .rejected)

def metadata : LedgerM MetadataRow := do
  let db ← get
  expect (db.metadata.filter fun row => row.revision ≤ maxSafeInteger) .metadataUnavailable

def reservationRow (reservationId : Text) : LedgerM (Option StoredReservation) := do
  return (← get).records reservationId

def attemptRow (key : Text) : LedgerM (Option AttemptRow) := do
  return (← get).attempts.find? fun row => row.idempotencyKey = key

def pendingAttempts (db : Database) : List AttemptRow :=
  (db.attempts.filter fun row => row.status = .pending).insertionSort
    fun a b => a.idempotencyKey ≤ b.idempotencyKey

def pendingAttemptRows : LedgerM (List AttemptRow) := do
  return pendingAttempts (← get)

def requireStoredRecord (value : Json) : LedgerM StoredReservation :=
  checked (decodeStoredMakerReservation value)

def Database.save (db : Database) (record : StoredReservation) : Database :=
  { db with
    records := Function.update db.records record.reservation.reservationId (some record),
    writes := db.writes ++ [record] }

def saveRecord (record : StoredReservation) : LedgerM Unit := modify fun db => db.save record

def raised (highWater fence : Int) : Int := if highWater < fence then fence else highWater

def MetadataRow.next (current : MetadataRow) (fence : Int) : MetadataRow :=
  ⟨current.revision + 1, raised current.highWater fence⟩

def advanceMetadata (current : MetadataRow) (fence : Int) : LedgerM MetadataRow := do
  modify fun db => { db with metadata := db.metadata.map fun _ => current.next fence }
  return current.next fence

/-- Store a version, and advance the metadata that is read after it. -/
def saveAndAdvance (record : StoredReservation) : LedgerM Unit := do
  saveRecord record
  let row ← metadata
  let _ ← advanceMetadata row record.reservation.fence

def AttemptRow.complete (row : AttemptRow) (outcome : AttemptOutcome) : AttemptRow :=
  { row with status := .completed, outcome := some outcome }

def Database.settle (db : Database) (key : Text) (outcome : AttemptOutcome) : Database :=
  { db with
    attempts := db.attempts.map fun row =>
      if row.idempotencyKey = key then row.complete outcome else row }

/-! ## Request bodies -/

def isSafeInteger : Option Json → Option Int
  | some (.number n) => if -maxSafeInteger ≤ n ∧ n ≤ maxSafeInteger then some n else none
  | _ => none

/-- `/^[1-9][0-9]*$/` -/
def isPositiveDecimal (s : Text) : Bool :=
  match s with
  | [] => false
  | c :: _ => decide (c ≠ '0') && s.all isDecDigit

/-- `requirePositiveBigInt`, up to the conversion of the text. -/
def fenceText : Option Json → Except LedgerError Text
  | some (.string s) => if isPositiveDecimal s then .ok s else .error .invalidFence
  | _ => .error .invalidFence

def requirePositiveBigInt (value : Option Json) : Except LedgerError Int := do
  let s ← fenceText value
  return ofDigits 10 s

structure CommitInput where
  expectedRevision : Int
  mutations : List Json

def commitInput (body : Json) : Except LedgerError CommitInput :=
  match isSafeInteger (body.get? "expectedRevision"), body.get? "mutations" with
  | some expectedRevision, some (.array mutations) =>
    if 0 ≤ expectedRevision ∧ mutations.length ≤ 100 then .ok ⟨expectedRevision, mutations⟩
    else .error .invalidTransaction
  | _, _ => .error .invalidTransaction

structure AttemptBinding where
  reservationId : Text
  expectedFence : Text
  idempotencyKey : Text
  payloadDigest : Text
  time : Int

/-- A string that matches `HEX_32`. -/
def hexWord : Option Json → Except LedgerError Text
  | some (.string s) => if isHex32 s then .ok s else .error .invalidBinding
  | _ => .error .invalidBinding

/-- A positive safe integer. -/
def positiveTime (value : Option Json) (e : LedgerError) : Except LedgerError Int :=
  match isSafeInteger value with
  | some time => if 0 < time then .ok time else .error e
  | none => .error e

def requireAttempt (body : Json) : Except LedgerError AttemptBinding := do
  let reservationId ← hexWord (body.get? "reservationId")
  let idempotencyKey ← hexWord (body.get? "idempotencyKey")
  let payloadDigest ← hexWord (body.get? "payloadDigest")
  let time ← positiveTime (body.get? "at") .invalidBinding
  let expectedFence ← fenceText (body.get? "expectedFence")
  return ⟨reservationId, expectedFence, idempotencyKey, payloadDigest, time⟩

inductive ReportedOutcome where
  | consumed (transactionHash : Option Json)
  | unknown (reason : Option Json)

def reportedOutcome (body : Json) : Except LedgerError ReportedOutcome :=
  match body.get? "outcome" with
  | some outcome =>
    match outcome.get? "kind" with
    | some (.string kind) =>
      if kind = "consumed".toList then .ok (.consumed (outcome.get? "transactionHash"))
      else if kind = "unknown".toList then .ok (.unknown (outcome.get? "reason"))
      else .error .invalidOutcome
    | _ => .error .invalidOutcome
  | none => .error .invalidOutcome

/-! ## Requests -/

structure Recovered where
  idempotencyKey : Text
  reservationId : Text
  expectedFence : Text
  payloadDigest : Text
  outcome : AttemptOutcome
  record : StoredReservation
  deriving DecidableEq

inductive Answer where
  | committed (revision : Nat)
  | claimed (record : StoredReservation)
  | replay (outcome : AttemptOutcome)
  | completed (outcome : AttemptOutcome) (record : StoredReservation)
  | recovered (items : List Recovered)
  deriving DecidableEq

/-- What the first loop of `commit` carries from mutation to mutation. -/
structure Prepared where
  seen : List Text
  validationHighWater : Int
  records : List StoredReservation

/-- `mutation.expectedFence` -/
def mutationFence (mutation : Json) : Except LedgerError (Option Int) :=
  match mutation.get? "expectedFence" with
  | some .null => .ok none
  | value => (requirePositiveBigInt value).map some

/-- The stored version that a mutation revises. -/
def currentRecord : Option StoredReservation → LedgerM (Option StoredReservation)
  | some row => some <$> requireStoredRecord row.encode
  | none => pure none

def prepareMutation (acc : Prepared) (mutation : Json) : LedgerM Prepared := do
  let next ← requireStoredRecord ((mutation.get? "record").getD .null)
  let id := next.reservation.reservationId
  Exec.assert (id ∉ acc.seen) .repeatedRecord
  let current ← currentRecord (← reservationRow id)
  let expectedFence ← lift (mutationFence mutation)
  checked (assertMakerReservationMutation (current.map (·.reservation)) next.reservation
    expectedFence)
  Exec.assert (current.isSome ∨ next.reservation.fence = acc.validationHighWater + 1) .notNextFence
  return ⟨id :: acc.seen, raised acc.validationHighWater next.reservation.fence,
    acc.records ++ [next]⟩

def writeRecord (row : MetadataRow) (record : StoredReservation) : LedgerM MetadataRow := do
  saveRecord record
  advanceMetadata row record.reservation.fence

def commit (body : Json) : LedgerM Answer := do
  let input ← lift (commitInput body)
  let row ← metadata
  Exec.assert ((row.revision : Int) = input.expectedRevision) .staleRevision
  let prepared ← input.mutations.foldlM prepareMutation ⟨[], row.highWater, []⟩
  let row ← prepared.records.foldlM writeRecord row
  return .committed row.revision

def interruptedOutcome : AttemptOutcome :=
  .unknown "interrupted value-moving attempt has an unknown outcome".toList

def AttemptOutcome.reason : AttemptOutcome → Text
  | .unknown reason => reason
  | .consumed _ => []

/-- Store the next version of a record and complete its attempt. -/
def finishAttempt (key : Text) (outcome : AttemptOutcome) (next : StoredReservation) :
    LedgerM Unit := do
  saveAndAdvance next
  modify fun db => db.settle key outcome

def fillingRecord (reservationId key : Text) (mismatch : LedgerError) :
    LedgerM StoredReservation := do
  let row ← expect (← reservationRow reservationId) .lostTombstone
  let current ← requireStoredRecord row.encode
  Exec.assert (current.reservation.state = .filling ∧
    current.reservation.settlementAttemptId = some key) mismatch
  return current

/-- Quarantine the reservation of a pending attempt whose outcome is not known. -/
def interruptAttempt (reservationId key : Text) (time : Int) : LedgerM StoredReservation := do
  let current ← fillingRecord reservationId key .pendingMismatch
  let reservation ← checked (transitionMakerReservation current.reservation
    (.quarantine current.reservation.fence (max time current.reservation.updatedAt)
      interruptedOutcome.reason))
  let quarantined := { current with reservation := reservation }
  finishAttempt key interruptedOutcome quarantined
  return quarantined

/-- The row of an attempt that is known already must have the binding of the request. -/
def AttemptRow.Binds (row : AttemptRow) (input : AttemptBinding) : Prop :=
  row.reservationId = input.reservationId ∧ row.selectionFence = input.expectedFence ∧
    row.payloadDigest = input.payloadDigest

instance (row : AttemptRow) (input : AttemptBinding) : Decidable (row.Binds input) :=
  inferInstanceAs (Decidable (_ ∧ _))

/-- The first begin of an attempt. -/
def claimAttempt (input : AttemptBinding) : LedgerM Answer := do
  let row ← expect (← reservationRow input.reservationId) .missingReservation
  let current ← requireStoredRecord row.encode
  let expectedFence ← lift (requirePositiveBigInt (some (.string input.expectedFence)))
  Exec.assert (current.reservation.fence = expectedFence) .staleFence
  let reservation ← checked (transitionMakerReservation current.reservation
    (.beginFill expectedFence input.time input.idempotencyKey))
  let filling := { current with reservation := reservation }
  saveAndAdvance filling
  modify fun db => { db with
    attempts := db.attempts ++ [⟨input.idempotencyKey, input.reservationId, input.expectedFence,
      input.payloadDigest, .pending, none⟩] }
  return .claimed filling

def beginAttempt (body : Json) : LedgerM Answer := do
  let input ← lift (requireAttempt body)
  match ← attemptRow input.idempotencyKey with
  | none => claimAttempt input
  | some prior =>
    Exec.assert (prior.Binds input) .reusedKey
    match prior.status, prior.outcome with
    | .completed, some outcome => return .replay outcome
    | _, _ => do
      let _ ← interruptAttempt input.reservationId input.idempotencyKey input.time
      return .replay interruptedOutcome

/-- One iteration of the loop of `recoverPendingAttempts`. -/
def recoverAttempt (time : Int) (items : List Recovered) (pending : AttemptRow) :
    LedgerM (List Recovered) := do
  let record ← interruptAttempt pending.reservationId pending.idempotencyKey time
  return items ++ [⟨pending.idempotencyKey, pending.reservationId, pending.selectionFence,
    pending.payloadDigest, interruptedOutcome, record⟩]

def recoverPendingAttempts (body : Json) : LedgerM Answer := do
  let time ← lift (positiveTime (body.get? "at") .invalidTimestamp)
  let rows ← pendingAttemptRows
  let items ← rows.foldlM (recoverAttempt time) []
  return .recovered items

/-- The outcome that is recorded for a report. A hash that is no text is rejected by the
transition, as the empty text is. -/
def recordedOutcome : ReportedOutcome → Except LedgerError AttemptOutcome
  | .consumed (some (.string hash)) => .ok (.consumed hash)
  | .consumed _ => .ok (.consumed [])
  | .unknown (some (.string reason)) =>
    .ok (.unknown (if trim reason = [] then "value-moving outcome is unknown".toList
      else trim reason))
  | .unknown none | .unknown (some .null) =>
    .ok (.unknown "value-moving outcome is unknown".toList)
  | .unknown (some _) => .error (.rejected "input.outcome.reason?.trim is not a function")

def AttemptOutcome.command (outcome : AttemptOutcome) (fence time : Int) : ReservationCommand :=
  match outcome with
  | .consumed hash => .consume fence time hash
  | .unknown reason => .quarantine fence time reason

def completeAttempt (body : Json) : LedgerM Answer := do
  let input ← lift (requireAttempt body)
  let reported ← lift (reportedOutcome body)
  let prior ← expect (← attemptRow input.idempotencyKey) .notClaimed
  Exec.assert (prior.Binds input) .reusedKey
  match prior.status, prior.outcome with
  | .completed, some outcome => return .replay outcome
  | _, _ => do
    let current ← fillingRecord input.reservationId input.idempotencyKey .completionMismatch
    let outcome ← lift (recordedOutcome reported)
    let reservation ← checked (transitionMakerReservation current.reservation
      (outcome.command current.reservation.fence input.time))
    let next := { current with reservation := reservation }
    finishAttempt input.idempotencyKey outcome next
    return .completed outcome next

inductive Request where
  | commit (body : Json)
  | begin (body : Json)
  | complete (body : Json)
  | recover (body : Json)

def execute : Request → LedgerM Answer
  | .commit body => commit body
  | .begin body => beginAttempt body
  | .complete body => completeAttempt body
  | .recover body => recoverPendingAttempts body

/-! ## Runs -/

inductive Step where
  /-- The object is constructed again over its storage. -/
  | restart
  /-- A request; the storage may fail in it, at any point. -/
  | request (r : Request) (storageFails : Bool)

/-- What the requester is told; `none` is the answer to a failure of the storage. -/
def respond (db : Database) (r : Request) (storageFails : Bool) :
    Except (Option LedgerError) Answer :=
  if storageFails then .error none
  else
    match (execute r).run db with
    | .ok (answer, _) => .ok answer
    | .error e => .error (some e)

def step (db : Database) : Step → Database
  | .restart => construct db
  | .request r storageFails =>
    if storageFails then db
    else
      match (execute r).run db with
      | .ok (_, db') => db'
      | .error _ => db

/-- The tables after a run. -/
def reached (steps : List Step) : Database := run step Database.empty steps

end App20.Reservation
