import App20.Lib.Utf8
import App20.Rfq.Storage

/-!
# History backups

The import of an authenticated backup: its records are restored without their keys and marked, its
tombstones are read, both are compared with what is stored, and what is newer is written. The snapshot
is taken as its verification returns it, and the limit of its size is left open.

* `planImport`: what an import will write, or why it is refused.
* `importRfqHistory`: the high-water mark first, then one write after the other.
-/

namespace App20.Rfq

open App20.Lib App20.Domain
open App20.Reservation (maxSafeInteger)

variable (host : Host)

/-! ## Secrets -/

mutual

def stripTakerAuthorizationSecrets (path : String) : Json → Except String Json
  | .bigint _ => .error (path ++ " contains a value that RFQ backup cannot encode.")
  | .array items => do
    let items ← stripItems path 0 items
    return .array items
  | .object fields => do
    let fields ← stripFields path fields
    return .object fields
  | value => .ok value

def stripItems (path : String) (index : Nat) : List Json → Except String (List Json)
  | [] => .ok []
  | item :: rest => do
    let item ← stripTakerAuthorizationSecrets (path ++ "[" ++ toString index ++ "]") item
    let rest ← stripItems path (index + 1) rest
    return item :: rest

def stripFields (path : String) : List (String × Json) → Except String (List (String × Json))
  | [] => .ok []
  | (key, child) :: rest =>
    if key = "takerSecret" ∨ key = "takerSigningKey" then stripFields path rest
    else do
      let child ← stripTakerAuthorizationSecrets (path ++ "." ++ key) child
      let rest ← stripFields path rest
      return (key, child) :: rest

end

/-! ## Rows -/

/-- Who a row belongs to, and when it was written. -/
structure SourceIdentity where
  chainId : Text
  account : Text
  rfqId : Text
  updatedAt : Int

def sourceIdentity (value : Json) : Except String SourceIdentity :=
  match asRow value with
  | none => .error "The RFQ history backup contains a non-object row."
  | some row =>
    match row.get? "chainId", row.get? "account", row.get? "rfqId", row.get? "updatedAt" with
    | some (.string chainId), some (.string account), some (.string rfqId),
        some (.number updatedAt) => do
      throwIf (updatedAt ≤ 0 ∨ maxSafeInteger < updatedAt)
        "The RFQ history backup contains an invalid row identity."
      let chainId ← canonicalRfqChainId host chainId
      let account ← canonicalRfqAccount account
      return ⟨chainId, account, rfqId, updatedAt⟩
    | _, _, _, _ => .error "The RFQ history backup contains an invalid row identity."

def restoreBackupRow (value : Json) (now : Int) (fromBackup : Bool) :
    Except String RfqLifecycleRecord := do
  let identity ← sourceIdentity host value
  let restored ← restoreRfqLifecycle host value
    ⟨identity.chainId, identity.account, now, fromBackup⟩
  throwIf (restored.chainId ≠ identity.chainId ∨ restored.account ≠ identity.account ∨
      restored.rfqId ≠ identity.rfqId ∨ restored.rfqId = malformedLocalRecord)
    "The RFQ history backup row failed lifecycle validation."
  return restored

def markRestoredVerifyOnly (record : RfqLifecycleRecord) (observedAt : Int) : RfqLifecycleRecord :=
  { record with
    takerSigningKey := none
    evidenceAuthority :=
      { record.evidenceAuthority with status := .localNonAuthoritative, observedAt }
    restoredFromBackup := record.restoredFromBackup || decide (record.mode = .v3)
    persisted := false }

/-- A row as an import or an export takes it. -/
def verifyOnlyRow (value : Json) (now : Int) : Except String RfqLifecycleRecord := do
  let stripped ← stripTakerAuthorizationSecrets "record" value
  let restored ← restoreBackupRow host stripped now true
  return markRestoredVerifyOnly restored now

/-- What two records of one time are compared by. -/
def comparableBackupRecord (value : RfqLifecycleRecord) (now : Int) :
    Except String RfqLifecycleRecord := do
  let normalized ← verifyOnlyRow host value.row now
  return { normalized with storageRevision := 0, storagePredecessorRevision := none }

/-! ## Tombstones -/

structure RfqPortableTombstone where
  chainId : Text
  account : Text
  rfqId : Text
  storageRevision : Int
  recordDigest : Text

def portableTombstoneSchema : String := "app20/rfq-history-tombstone/v1"

/-- `/^sha256:[0-9a-f]{64}$/` -/
def isRecordDigest (value : Text) : Bool :=
  "sha256:".toList.isPrefixOf value && decide ((value.drop 7).length = 64) &&
    (value.drop 7).all fun c => isHexDigit c && !c.isUpper

def canonicalStorageRfqId (chainId rfqId : Text) : Except String Text :=
  if isLocalRfqChain host chainId = true then canonicalLocalRfqId rfqId else .ok rfqId

def normalizeRfqPortableTombstone (value : Json) (scopeChain scopeAccount : Text) :
    Except String RfqPortableTombstone := do
  match asRow value with
  | none => .error "The RFQ backup tombstone is invalid."
  | some row => do
    throwIf (¬ row.keys.Perm ["account", "chainId", "recordDigest", "rfqId", "storageRevision",
        "tombstoneSchema"]) "The RFQ backup tombstone schema is unsupported."
    match row.get? "chainId", row.get? "account", row.get? "rfqId", row.get? "storageRevision",
        row.get? "recordDigest" with
    | some (.string chainId), some (.string account), some (.string rfqId),
        some (.number storageRevision), some (.string recordDigest) => do
      throwIf (isName portableTombstoneSchema (row.get? "tombstoneSchema") = false ∨ rfqId = [] ∨
          256 < (encodeUtf8 rfqId).length ∨ storageRevision < 0 ∨
          maxSafeInteger < storageRevision ∨ isRecordDigest recordDigest = false)
        "The RFQ backup tombstone is malformed or oversized."
      let chainId ← canonicalRfqChainId host chainId
      let account ← canonicalRfqAccount account
      let rfqId ← canonicalStorageRfqId host chainId rfqId
      let scopeChain ← canonicalRfqChainId host scopeChain
      let scopeAccount ← canonicalRfqAccount scopeAccount
      throwIf (chainId ≠ scopeChain ∨ account ≠ scopeAccount)
        "The RFQ backup tombstone belongs to another scope."
      return ⟨chainId, account, rfqId, storageRevision, recordDigest⟩
    | _, _, _, _, _ => .error "The RFQ backup tombstone is malformed or oversized."

/-! ## The export -/

/-- What `verifyBackupSnapshot` returns of an authenticated snapshot. -/
structure BackupSnapshot where
  payload : Json
  owner : Text
  chainId : Text
  seq : Int
  digest : Text

structure ParsedExport where
  chainId : Text
  account : Text
  records : List Json
  tombstones : List Json

def historyBackupSchema : String := "app20/rfq-history-backup/v2"

def maxEntries : Nat := 1000

def parseExport (bounded : Json → Bool) (value : Json) : Except String ParsedExport :=
  match value.get? "chainId", value.get? "account" with
  | some (.string chainId), some (.string account) => do
    throwIf ((asRow value).isNone = true ∨ ¬ value.keys.Perm ["account", "chainId", "count",
        "records", "schema", "tombstoneCount", "tombstones"] ∨
        isName historyBackupSchema (value.get? "schema") = false)
      "The RFQ history backup schema is unsupported."
    throwIf (bounded value = false) "The RFQ history backup exceeds the 1 MB payload limit."
    match value.get? "records", value.get? "tombstones", value.get? "count",
        value.get? "tombstoneCount" with
    | some (.array records), some (.array tombstones), some (.number count),
        some (.number tombstoneCount) => do
      throwIf (maxEntries < records.length + tombstones.length ∨ count ≠ records.length ∨
          tombstoneCount ≠ tombstones.length)
        "The RFQ history backup count is invalid."
      let chainId ← canonicalRfqChainId host chainId
      let account ← canonicalRfqAccount account
      return ⟨chainId, account, records, tombstones⟩
    | _, _, _, _ => .error "The RFQ history backup count is invalid."
  | _, _ => .error "The RFQ history backup schema is unsupported."

def assertTombstoneIds (recordIds : List Text) : List Text → List RfqPortableTombstone →
    Except String Unit
  | _, [] => .ok ()
  | seen, tombstone :: rest => do
    throwIf (tombstone.rfqId ∈ seen)
      "The RFQ history backup contains duplicate tombstone RFQ ids."
    throwIf (tombstone.rfqId ∈ recordIds)
      ("The RFQ history backup ambiguously contains both a record and tombstone for one RFQ id.")
    assertTombstoneIds recordIds (tombstone.rfqId :: seen) rest

def assertUniqueHistoryIds (records : List RfqLifecycleRecord)
    (tombstones : List RfqPortableTombstone) : Except String Unit := do
  throwIf (¬ (records.map (·.rfqId)).Nodup) "The RFQ history backup contains duplicate RFQ ids."
  assertTombstoneIds (records.map (·.rfqId)) [] tombstones

/-! ## The high-water mark -/

structure HighWater where
  seq : Int
  digest : Text

/-- The stored mark is `some none` where it cannot be read. -/
def assertRestoreHighWater (stored : Option (Option HighWater)) (snapshot : BackupSnapshot) :
    Except String Unit :=
  match stored with
  | none => .ok ()
  | some none => .error "The RFQ backup restore high-water is malformed."
  | some (some mark) => do
    throwIf (snapshot.seq < mark.seq)
      "RFQ history restore rejected an authenticated backup sequence rollback."
    throwIf (snapshot.seq = mark.seq ∧ snapshot.digest ≠ mark.digest)
      "RFQ history restore rejected conflicting authenticated snapshots at one sequence."

/-! ## The plan -/

structure Incoming where
  identity : SourceIdentity
  record : RfqLifecycleRecord

def incomingRow (parsed : ParsedExport) (now : Int) (row : Json) : Except String Incoming := do
  let identity ← sourceIdentity host row
  let record ← verifyOnlyRow host row now
  throwIf (identity.chainId ≠ parsed.chainId ∨ identity.account ≠ parsed.account ∨
      (record.mode = .v3 ∧ (record.restoredFromBackup = false ∨ record.takerSigningKey ≠ none)))
    "The RFQ history backup row failed its authenticated scope or verify-only invariant."
  return ⟨identity, record⟩

def prepareInitialRecord (record : RfqLifecycleRecord) : RfqLifecycleRecord :=
  { record with storageRevision := 0, storagePredecessorRevision := none, persisted := false }

def prepareReplacementRecord (record existing : RfqLifecycleRecord) : RfqLifecycleRecord :=
  { record with
    storageRevision := existing.storageRevision + 1
    storagePredecessorRevision := some existing.storageRevision
    persisted := false }

def existingRecords (now : Int) : List RfqLifecycleRecord → List Json →
    Except String (List RfqLifecycleRecord)
  | found, [] => .ok found
  | found, row :: rest => do
    let restored ← restoreBackupRow host row now false
    throwIf (restored.rfqId ∈ found.map (·.rfqId)) "Local RFQ history contains duplicate RFQ ids."
    existingRecords now (found ++ [restored]) rest

def findRecord (records : List RfqLifecycleRecord) (rfqId : Text) : Option RfqLifecycleRecord :=
  records.find? fun r => decide (r.rfqId = rfqId)

def findTombstone (tombstones : List RfqPortableTombstone) (rfqId : Text) :
    Option RfqPortableTombstone := tombstones.find? fun t => decide (t.rfqId = rfqId)

/-- A tombstone that is to be saved; `none` is one that is there already. -/
def planTombstone (digest : RfqLifecycleRecord → Text) (existing : List RfqLifecycleRecord)
    (localTombstones : List RfqPortableTombstone) (tombstone : RfqPortableTombstone) :
    Except String (Option RfqPortableTombstone) :=
  match findTombstone localTombstones tombstone.rfqId with
  | some found => do
    throwIf (found.recordDigest ≠ tombstone.recordDigest)
      "RFQ history restore found conflicting authenticated tombstones."
    return none
  | none => do
    throwIf (∃ r ∈ findRecord existing tombstone.rfqId, r.restoredFromBackup = false ∧
        (lifecycleMayForget r = false ∨
          digest (finalizeRfqLifecycleForStorage r) ≠ tombstone.recordDigest))
      "RFQ history restore refused a tombstone over unresolved or nonmatching local evidence."
    return some tombstone

/-- A record that is to be saved; `none` is one that is there, or older than what is there. -/
def planRecord (existing : List RfqLifecycleRecord) (now : Int) (entry : Incoming) :
    Except String (Option RfqLifecycleRecord) :=
  match findRecord existing entry.record.rfqId with
  | none => .ok (some (prepareInitialRecord entry.record))
  | some found =>
    if entry.identity.updatedAt < found.updatedAt then .ok none
    else if found.updatedAt = entry.identity.updatedAt then do
      let before ← comparableBackupRecord host found now
      let after ← comparableBackupRecord host entry.record now
      throwIf (before ≠ after) "RFQ history restore found ambiguous same-time lifecycle records."
      return none
    else .ok (some (prepareReplacementRecord entry.record found))

structure ImportPlan where
  snapshot : BackupSnapshot
  tombstones : List RfqPortableTombstone
  records : List RfqLifecycleRecord

/-- What is known of a backup before the storage is read. -/
structure CheckedBackup where
  snapshot : BackupSnapshot
  parsed : ParsedExport
  now : Int
  incoming : List Incoming
  tombstones : List RfqPortableTombstone

/-- The part of an import that looks at nothing but the backup and the mark. -/
def checkBackup (bounded : Json → Bool) (verified : Except String BackupSnapshot)
    (stored : Option (Option HighWater)) (verificationNow : Int) : Except String CheckedBackup := do
  let snapshot ← verified
  let parsed ← parseExport host bounded snapshot.payload
  let chainId ← canonicalRfqChainId host snapshot.chainId
  let account ← canonicalRfqAccount snapshot.owner
  throwIf (parsed.chainId ≠ chainId ∨ parsed.account ≠ account)
    "The authenticated RFQ history payload contradicts its wallet or chain scope."
  assertRestoreHighWater stored snapshot
  let now := verificationNow / 1000
  let incoming ← parsed.records.mapM (incomingRow host parsed now)
  let tombstones ← parsed.tombstones.mapM
    fun value => normalizeRfqPortableTombstone host value parsed.chainId parsed.account
  assertUniqueHistoryIds (incoming.map (·.record)) tombstones
  return ⟨snapshot, parsed, now, incoming, tombstones⟩

def planImport (digest : RfqLifecycleRecord → Text) (checked : CheckedBackup)
    (storedRows : List Json) (storedTombstones : List RfqPortableTombstone) :
    Except String ImportPlan := do
  throwIf (maxEntries < storedRows.length + storedTombstones.length)
    "Local RFQ history exceeds the bounded merge entry count."
  let existing ← existingRecords host checked.now [] storedRows
  throwIf (¬ (storedTombstones.map (·.rfqId)).Nodup)
    "Local RFQ history contains duplicate tombstone ids."
  throwIf (∃ entry ∈ checked.incoming, (findTombstone storedTombstones entry.record.rfqId).isSome)
    "RFQ history restore refused to resurrect a locally forgotten RFQ."
  let tombstones ← checked.tombstones.mapM (planTombstone digest existing storedTombstones)
  let records ← checked.incoming.mapM (planRecord host existing checked.now)
  return ⟨checked.snapshot, tombstones.reduceOption, records.reduceOption⟩

/-! ## The import -/

/-- The rows of one wallet on one chain, each under its id, and the mark of its restores. -/
structure HistoryStore where
  rows : List (Text × RfqStoredRow)
  highWater : Option (Option HighWater)

namespace HistoryStore

def get (store : HistoryStore) (rfqId : Text) : Option RfqStoredRow := store.rows.lookup rfqId

/-- The row under an id is replaced, or a new one is put behind the others. -/
def put (store : HistoryStore) (rfqId : Text) (row : RfqStoredRow) : HistoryStore :=
  if (store.get rfqId).isSome = true then
    { store with rows := store.rows.map fun entry =>
        if entry.1 = rfqId then (rfqId, row) else entry }
  else { store with rows := store.rows ++ [(rfqId, row)] }

def list (store : HistoryStore) : List Json :=
  store.rows.filterMap fun entry => match entry.2 with
    | .record record => some record.row
    | .tombstone _ => none

def listTombstones (store : HistoryStore) (chainId account : Text) : List RfqPortableTombstone :=
  store.rows.filterMap fun entry => match entry.2 with
    | .record _ => none
    | .tombstone t => some ⟨chainId, account, entry.1, t.storageRevision, t.recordDigest⟩

def save (store : HistoryStore) (record : RfqLifecycleRecord) : Except String HistoryStore := do
  let canonical ← canonicalizeStorageRecord host record
  let saved ← saveRecord host (store.get canonical.rfqId) record
  return store.put canonical.rfqId (.record saved)

/-- `saveTombstone`; the key of a row is its id here. -/
def saveTombstone (digest : RfqLifecycleRecord → Text) (store : HistoryStore)
    (tombstone : RfqPortableTombstone) : Except String HistoryStore := do
  let saved ← assertRfqStorageTombstoneReplacement digest (store.get tombstone.rfqId)
    ⟨tombstone.rfqId, tombstone.storageRevision, tombstone.recordDigest⟩
  return store.put tombstone.rfqId (.tombstone saved)

end HistoryStore

/-- One write after the other; what is written before one is refused stays. -/
def writeAll {α : Type} (write : HistoryStore → α → Except String HistoryStore) :
    HistoryStore → List α → Except String Unit × HistoryStore
  | store, [] => (.ok (), store)
  | store, value :: rest =>
    match write store value with
    | .error e => (.error e, store)
    | .ok next => writeAll write next rest

/-- The outcome of an import, and the storage after it. The counts of its result are the lengths of
the plan. -/
def importRfqHistory (bounded : Json → Bool) (digest : RfqLifecycleRecord → Text)
    (verified : Except String BackupSnapshot) (verificationNow : Int) (store : HistoryStore) :
    Except String ImportPlan × HistoryStore :=
  match checkBackup host bounded verified store.highWater verificationNow with
  | .error e => (.error e, store)
  | .ok checked =>
    match planImport host digest checked store.list
        (store.listTombstones checked.parsed.chainId checked.parsed.account) with
    | .error e => (.error e, store)
    | .ok plan =>
      let marked := { store with
        highWater := some (some ⟨plan.snapshot.seq, plan.snapshot.digest⟩) }
      match writeAll (HistoryStore.saveTombstone digest) marked plan.tombstones with
      | (.error e, after) => (.error e, after)
      | (.ok _, after) =>
        match writeAll (HistoryStore.save host) after plan.records with
        | (.error e, last) => (.error e, last)
        | (.ok _, last) => (.ok plan, last)

end App20.Rfq
