import App20.Domain.CompareText
import App20.Domain.Decimal
import App20.Intents.EconomicPolicy
import App20.Lib.Journal
import App20.Lib.SortedKeys
import App20.Lib.Table

/-!
# Accounting of localnet RFQs

What makers have committed, indexed by the second of the commitment, with the journal that the index
is rebuilt from. Times are whole seconds that are safe integers. The file is its last complete version;
how an append goes is the outcome of its write. The order of `localeCompare` is left open.

* `Economics.commit`: a commitment is recorded once under its id, and in the journal before the index.
* `Economics.snapshotAccounting`: what the trailing day before a decision holds.
-/

namespace App20.Localnet

open App20.Lib App20.Domain
open App20.Reservation (isObject maxSafeInteger)
open App20.Intents (dailyWindowSeconds usdcBaseUnits)

/-! ## Texts and commitments -/

def journalText (value : Option Json) (label : String) : Except String Text :=
  match value with
  | some (.string s) =>
    if trim s = [] ∨ Char.ofNat 0 ∈ s then
      .error (label ++ " must be non-empty text without a NUL byte.")
    else .ok s
  | _ => .error (label ++ " must be non-empty text without a NUL byte.")

structure Commitment where
  commitmentId : Option Text
  makerId : Text
  usdcEquivalentBaseUnits : Int
  committedAt : Int

/-- `/^[1-9][0-9]*$/` -/
def isPositiveDecimal (s : Text) : Bool := isDecimal s && decide (s ≠ ['0'])

def journalCommitment (value : Json) : Except String Commitment := do
  throwIf (isObject value = false) "RFQ accounting journal commitment is invalid."
  match value.get? "usdcEquivalentBaseUnits" with
  | some (.string amount) => do
    throwIf (isPositiveDecimal amount = false) "RFQ accounting journal amount is invalid."
    match value.get? "committedAt" with
    | some (.number committedAt) => do
      throwIf (committedAt ≤ 0 ∨ maxSafeInteger < committedAt)
        "RFQ accounting journal commitment time is invalid."
      let commitmentId ← journalText (value.get? "commitmentId") "commitmentId"
      let makerId ← journalText (value.get? "makerId") "makerId"
      return ⟨some commitmentId, makerId, decimalValue amount, committedAt⟩
    | _ => .error "RFQ accounting journal commitment time is invalid."
  | _ => .error "RFQ accounting journal amount is invalid."

/-! ## The index -/

/-- The commitments of one second. -/
structure Bucket where
  market : Int
  byMaker : Text → Int

def Bucket.empty : Bucket := ⟨0, fun _ => 0⟩

def Bucket.add (bucket : Bucket) (c : Commitment) : Bucket where
  market := bucket.market + c.usdcEquivalentBaseUnits
  byMaker makerId := if makerId = c.makerId then bucket.byMaker makerId + c.usdcEquivalentBaseUnits
    else bucket.byMaker makerId

/-- `commitmentTimes` and `commitmentBuckets` -/
structure Index where
  times : List Int
  buckets : Int → Option Bucket

def Index.empty : Index := ⟨[], fun _ => none⟩

def Index.indexCommitment (index : Index) (c : Commitment) : Index :=
  match index.buckets c.committedAt with
  | some bucket =>
    { index with buckets := Function.update index.buckets c.committedAt (some (bucket.add c)) }
  | none =>
    { times := insertKey index.times c.committedAt
      buckets := Function.update index.buckets c.committedAt (some (Bucket.empty.add c)) }

/-- What the seconds from `startsAt` on and before `endsAt` hold, read off each bucket. -/
def Index.committed (index : Index) (startsAt endsAt : Int) (read : Bucket → Int) : Int :=
  ((between index.times startsAt endsAt).map fun time => ((index.buckets time).map read).getD 0).sum

/-! ## The instance -/

/-- What an instance is created with. -/
structure EconomicsOptions where
  unapprovedFixtureAccounting : Option Json
  /-- `accountingPath` is given. -/
  durable : Bool
  /-- `marketState` is "suspended". -/
  suspended : Bool

structure Economics where
  options : EconomicsOptions
  suspended : Bool
  index : Index
  commitmentsById : Table Commitment.commitmentId
  failed : Bool
  /-- The journal, once it has been written. -/
  journal : Option Json

def fixtureMakerCommitted : Int := 5000 * usdcBaseUnits
def fixtureMarketCommitted : Int := 15000 * usdcBaseUnits

/-- A seed: that of a given fixture, none where the fixture is `null`, or the default. -/
def EconomicsOptions.seedOf (options : EconomicsOptions) (field : String) (default : Int) : Int :=
  match options.unapprovedFixtureAccounting with
  | none => default
  | some .null => 0
  | some value =>
    match value.get? field with
    | some (.bigint n) => n
    | _ => default

def EconomicsOptions.makerSeed (options : EconomicsOptions) : Int :=
  options.seedOf "makerCommittedUsdcBaseUnits" fixtureMakerCommitted

def EconomicsOptions.marketSeed (options : EconomicsOptions) : Int :=
  options.seedOf "marketCommittedUsdcBaseUnits" fixtureMarketCommitted

def accountingJournalDomain : Text := "app20/localnet-rfq-accounting/v1".toList

variable (localeCompare : Text → Text → Ordering)

def commitmentOrder (left right : Commitment) : Ordering :=
  (compare left.committedAt right.committedAt).then
    (localeCompare (left.commitmentId.getD []) (right.commitmentId.getD []))

def Commitment.json (c : Commitment) : Json :=
  .object [("commitmentId", .string (c.commitmentId.getD [])), ("makerId", .string c.makerId),
    ("usdcEquivalentBaseUnits", .string (decimal c.usdcEquivalentBaseUnits)),
    ("committedAt", .number c.committedAt)]

def serializeCommitments (candidate : List Commitment) : Json :=
  .object [("domain", .string accountingJournalDomain),
    ("commitments", .array ((sort (commitmentOrder localeCompare) candidate).map Commitment.json))]

/-! ## Loading -/

def loadCommitments : Table Commitment.commitmentId × Index → List Json →
    Except String (Table Commitment.commitmentId × Index)
  | loaded, [] => .ok loaded
  | (byId, index), raw :: rest => do
    let commitment ← journalCommitment raw
    throwIf ((byId.get? commitment.commitmentId).isSome = true)
      "RFQ accounting journal repeats a commitment identity."
    loadCommitments (byId.put commitment, index.indexCommitment commitment) rest

def loadJournal (journal : Option Json) : Except String (Table Commitment.commitmentId × Index) :=
  match journal with
  | none => .ok (Table.empty, Index.empty)
  | some value =>
    match value.get? "domain", value.get? "commitments" with
    | some (.string domain), some (.array commitments) => do
      throwIf (domain ≠ accountingJournalDomain) "RFQ accounting journal has an invalid schema."
      loadCommitments (Table.empty, Index.empty) commitments
    | _, _ => .error "RFQ accounting journal has an invalid schema."

def createLocalnetRfqEconomics (options : EconomicsOptions) (journal : Option Json) :
    Except String Economics := do
  let (commitmentsById, index) ← loadJournal (if options.durable = true then journal else none)
  return {
    options
    suspended := options.suspended
    index, commitmentsById, failed := false, journal }

/-! ## Snapshots -/

structure TrailingWindow where
  windowId : Text
  startsAt : Int
  endsAt : Int

def trailingWindow (decisionAt : Int) : TrailingWindow :=
  -- one second past the decision, so that a commitment of that very second counts
  let endsAt := decisionAt + 1
  let startsAt := endsAt - dailyWindowSeconds
  ⟨"localnet-risk-trailing-24h-".toList ++ decimal startsAt ++ '-' :: decimal endsAt, startsAt,
    endsAt⟩

/-- `freezeAccounting` of a decision at a whole second. -/
structure AccountingSnapshot where
  window : TrailingWindow
  marketId : Text
  makerId : Option Json
  observedAt : Int
  makerCommittedUsdcBaseUnits : Int
  marketCommittedUsdcBaseUnits : Int

/-- `bucket.byMaker.get(makerId) ?? 0n`: only texts are makers. -/
def Bucket.maker (makerId : Option Json) (bucket : Bucket) : Int :=
  match makerId with
  | some (.string makerId) => bucket.byMaker makerId
  | _ => 0

namespace Economics

def failStopped : String := "RFQ accounting is fail-stopped after uncertain persistence."

def snapshotAccounting (e : Economics) (decisionAt : Int) (makerId : Option Json)
    (marketId : Text) : Except String AccountingSnapshot := do
  throwIf (e.failed = true) failStopped
  let window := trailingWindow decisionAt
  return {
    window, marketId, makerId
    observedAt := decisionAt
    makerCommittedUsdcBaseUnits :=
      e.options.makerSeed + e.index.committed window.startsAt window.endsAt (Bucket.maker makerId)
    marketCommittedUsdcBaseUnits :=
      e.options.marketSeed + e.index.committed window.startsAt window.endsAt Bucket.market }

/-! ## Commitments -/

/-- The arguments of `commit`, with an id where there is to be a journal. -/
def readCommitment (durable : Bool) (makerId amount decisionAt commitmentId : Option Json) :
    Except String Commitment := do
  let makerId ← journalText makerId "Committed makerId"
  match amount with
  | some (.bigint amount) => do
    throwIf (amount ≤ 0) "Committed USDC equivalent must be a positive bigint."
    match decisionAt with
    | some (.number decisionAt) => do
      throwIf (decisionAt ≤ 0 ∨ maxSafeInteger < decisionAt)
        "Commitment time must be a positive safe integer."
      match commitmentId with
      | none => do
        throwIf (durable = true) "Durable RFQ accounting requires a commitment identity."
        return ⟨none, makerId, amount, decisionAt⟩
      | some id => do
        let id ← journalText (some id) "commitmentId"
        return ⟨some id, makerId, amount, decisionAt⟩
    | _ => .error "Commitment time must be a positive safe integer."
  | _ => .error "Committed USDC equivalent must be a positive bigint."

def reusedIdentity : String := "Commitment identity was reused with different economic terms."

def uncertainPersistence : String :=
  "RFQ accounting persistence became uncertain; accounting is fail-stopped."

/-- A new commitment under an id: the journal first, then memory. Without a path there is no journal
to fail. -/
def record (e : Economics) (c : Commitment) (append : Append) : Except String Unit × Economics :=
  let candidate := e.commitmentsById.put c
  let written := some (serializeCommitments localeCompare candidate.entries)
  let recorded := { e with commitmentsById := candidate, index := e.index.indexCommitment c }
  if e.options.durable = false then (.ok (), recorded)
  else
    match append with
    | .done => (.ok (), { recorded with journal := written })
    | .lost => (.error uncertainPersistence, { e with failed := true })
    | .kept => (.error uncertainPersistence, { e with failed := true, journal := written })

def commitRead (e : Economics) (c : Commitment) (append : Append) : Except String Unit × Economics :=
  match c.commitmentId with
  | none => (.ok (), { e with index := e.index.indexCommitment c })
  | some id =>
    match e.commitmentsById.get? (some id) with
    | some prior =>
      if prior.makerId ≠ c.makerId ∨ prior.usdcEquivalentBaseUnits ≠ c.usdcEquivalentBaseUnits then
        (.error reusedIdentity, e)
      else (.ok (), e)
    | none => e.record localeCompare c append

def commit (e : Economics) (makerId amount decisionAt commitmentId : Option Json)
    (append : Append) : Except String Unit × Economics :=
  if e.failed = true then
    (.error failStopped, e)
  else
    match readCommitment e.options.durable makerId amount decisionAt commitmentId with
    | .error reason => (.error reason, e)
    | .ok c => e.commitRead localeCompare c append

/-- The process starts again with the journal as it is; without one there is nothing to start from. -/
def restart (e : Economics) : Economics :=
  if e.options.durable = false then e
  else
    match createLocalnetRfqEconomics e.options e.journal with
    | .ok next => next
    | .error _ => e

end Economics

end App20.Localnet
