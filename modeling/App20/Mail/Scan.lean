import App20.Domain.CompareText
import App20.Reservation.Codec
import Mathlib.Tactic.FinCases

/-!
# The planner of mail scans

The cursor of a mailbox keeps the two ends of the blocks that were scanned, and a range that was
left unfinished. It is stored as JSON between scans.

* `loadMailScanCursor_save`: a stored cursor is read as it was.
* `plan_cases`: the ranges that are planned.
-/

namespace App20.Mail

open App20.Lib App20.Domain
open App20.Reservation (isObject maxSafeInteger)

/-! ## Data -/

def mailScanMaxPages : Nat := 4
def mailScanBlockWindow : Int := 2048
def maxContinuationTokenLength : Nat := 2048

inductive MailScanDirection where
  | recent | newer | older
  deriving DecidableEq

inductive RequestedScan where
  | newer | older
  deriving DecidableEq

def MailScanDirection.name : MailScanDirection → Text
  | .recent => "recent".toList
  | .newer => "newer".toList
  | .older => "older".toList

structure MailScanRange where
  direction : MailScanDirection
  fromBlock : Int
  toBlock : Int
  continuationToken : Option Text
  deriving DecidableEq

/-- A range with the token that goes on with it. -/
structure PendingScan where
  direction : MailScanDirection
  fromBlock : Int
  toBlock : Int
  continuationToken : Text
  deriving DecidableEq

def PendingScan.range (p : PendingScan) : MailScanRange :=
  ⟨p.direction, p.fromBlock, p.toBlock, some p.continuationToken⟩

structure MailScanCursor where
  oldestScannedBlock : Option Int
  newestScannedBlock : Option Int
  pending : Option PendingScan
  deriving DecidableEq

def emptyMailScanCursor : MailScanCursor := ⟨none, none, none⟩

def IsBlockNumber (n : Int) : Prop := 0 ≤ n ∧ n ≤ maxSafeInteger

instance (n : Int) : Decidable (IsBlockNumber n) := inferInstanceAs (Decidable (_ ∧ _))

/-! ## Tokens -/

/-- A token that goes on with a range. -/
def IsToken (s : Text) : Prop := s ≠ [] ∧ (codeUnits s).length ≤ maxContinuationTokenLength

instance (s : Text) : Decidable (IsToken s) := inferInstanceAs (Decidable (_ ∧ _))

/-- `parseContinuationToken` and `normalizeContinuationToken`: an empty token is none. -/
def normalizeContinuationToken (value : Option Json) : Except String (Option Text) :=
  match value with
  | none => .ok none
  | some .null => .ok none
  | some (.string s) =>
    if s = [] then .ok none
    else if IsToken s then .ok (some s)
    else .error "The RPC returned an invalid event continuation token."
  | some _ => .error "The RPC returned an invalid event continuation token."

theorem normalizeContinuationToken_some {value : Option Json} {s : Text} :
    normalizeContinuationToken value = .ok (some s) ↔ value = some (.string s) ∧ IsToken s := by
  unfold normalizeContinuationToken
  split
  · simp
  · simp
  · rename_i s'
    by_cases hnil : s' = []
    · rw [if_pos hnil]
      constructor
      · intro h
        cases h
      · intro h
        obtain ⟨hs, htoken⟩ := h
        cases hs
        exact absurd hnil htoken.1
    · rw [if_neg hnil]
      by_cases htoken : IsToken s'
      · rw [if_pos htoken]
        constructor
        · intro h
          cases h
          exact ⟨rfl, htoken⟩
        · intro h
          cases h.1
          rfl
      · rw [if_neg htoken]
        constructor
        · intro h
          cases h
        · intro h
          cases h.1
          exact absurd h.2 htoken
  · rename_i hstring
    constructor
    · intro h
      cases h
    · intro h
      exact absurd (Option.some.inj h.1) (hstring s)

/-! ## The stored cursor -/

def blockJson (block : Option Int) : Json :=
  match block with
  | some n => .number n
  | none => .null

def PendingScan.save (p : PendingScan) : Json :=
  .object [("direction", .string p.direction.name), ("fromBlock", .number p.fromBlock),
    ("toBlock", .number p.toBlock), ("continuationToken", .string p.continuationToken)]

/-- `saveMailScanCursor` -/
def MailScanCursor.save (c : MailScanCursor) : Json :=
  .object ([("version", .number 1), ("oldestScannedBlock", blockJson c.oldestScannedBlock),
    ("newestScannedBlock", blockJson c.newestScannedBlock)] ++
      Json.optional "pending" (c.pending.map PendingScan.save))

/-- A block number, or `null`. -/
def readBlock (value : Option Json) : Option (Option Int) :=
  match value with
  | some .null => some none
  | some (.number n) => if IsBlockNumber n then some (some n) else none
  | _ => none

def readDirection (value : Option Json) : Option MailScanDirection :=
  match value with
  | some (.string s) => [.recent, .newer, .older].find? fun d => d.name = s
  | _ => none

def parsePending (value : Json) : Option PendingScan := do
  let direction ← readDirection (value.get? "direction")
  let fromBlock ← (← readBlock (value.get? "fromBlock"))
  let toBlock ← (← readBlock (value.get? "toBlock"))
  guard (fromBlock ≤ toBlock)
  match normalizeContinuationToken (value.get? "continuationToken") with
  | .ok (some continuationToken) => return ⟨direction, fromBlock, toBlock, continuationToken⟩
  | _ => none

def isVersion1 (value : Option Json) : Bool :=
  match value with
  | some (.number n) => n = 1
  | _ => false

/-- The two ends, when both are well formed and in order. -/
def readEnds (value : Json) : Option (Option Int × Option Int) := do
  guard (isObject value = true ∧ isVersion1 (value.get? "version") = true)
  let oldest ← readBlock (value.get? "oldestScannedBlock")
  let newest ← readBlock (value.get? "newestScannedBlock")
  guard (∀ o ∈ oldest, ∀ n ∈ newest, o ≤ n)
  return (oldest, newest)

/-- A stored cursor. Without well formed ends it is the empty one; without a well formed range that
was left unfinished it keeps its ends. -/
def loadMailScanCursor (stored : Option Json) : MailScanCursor :=
  match stored with
  | none => emptyMailScanCursor
  | some value =>
    match readEnds value with
    | none => emptyMailScanCursor
    | some (oldest, newest) => ⟨oldest, newest, (value.get? "pending").bind parsePending⟩

/-! ## The planner -/

def planMailScan (cursor : MailScanCursor) (latestBlock : Int) (requested : RequestedScan)
    (recentLoaded : Bool) : Except String (Option MailScanRange) :=
  if ¬ IsBlockNumber latestBlock then .error "The RPC returned an invalid latest block number."
  else
    match cursor.pending with
    | some pending => .ok (some pending.range)
    | none =>
      if requested = .older then
        let toBlock := cursor.oldestScannedBlock.getD (latestBlock + 1) - 1
        if toBlock < 0 then .ok none
        else .ok (some ⟨.older, max 0 (toBlock - mailScanBlockWindow + 1), toBlock, none⟩)
      else if recentLoaded = false then
        .ok (some ⟨.recent, max 0 (latestBlock - mailScanBlockWindow + 1), latestBlock, none⟩)
      else
        let fromBlock := cursor.newestScannedBlock.getD latestBlock + 1
        if latestBlock < fromBlock then .ok none
        else .ok (some ⟨.newer, fromBlock, latestBlock, none⟩)

def pauseMailScan (cursor : MailScanCursor) (range : MailScanRange) (continuationToken : Text) :
    Except String MailScanCursor := do
  match ← normalizeContinuationToken (some (.string continuationToken)) with
  | none => .error "A pending message scan requires a continuation token."
  | some token =>
    return { cursor with pending := some ⟨range.direction, range.fromBlock, range.toBlock, token⟩ }

def completeMailScan (cursor : MailScanCursor) (range : MailScanRange) : MailScanCursor where
  oldestScannedBlock := some (match cursor.oldestScannedBlock with
    | none => range.fromBlock
    | some oldest => min oldest range.fromBlock)
  newestScannedBlock := some (match cursor.newestScannedBlock with
    | none => range.toBlock
    | some newest => max newest range.toBlock)
  pending := none

/-! ## Stored cursors are read as they were -/

/-- A cursor as the planner keeps it. -/
structure MailScanCursor.WellFormed (c : MailScanCursor) : Prop where
  oldest : ∀ o ∈ c.oldestScannedBlock, IsBlockNumber o
  newest : ∀ n ∈ c.newestScannedBlock, IsBlockNumber n
  ordered : ∀ o ∈ c.oldestScannedBlock, ∀ n ∈ c.newestScannedBlock, o ≤ n
  pending : ∀ p ∈ c.pending, IsBlockNumber p.fromBlock ∧ IsBlockNumber p.toBlock ∧
    p.fromBlock ≤ p.toBlock ∧ IsToken p.continuationToken

theorem readBlock_blockJson (block : Option Int) (h : ∀ n ∈ block, IsBlockNumber n) :
    readBlock (some (blockJson block)) = some block := by
  cases block with
  | none => rfl
  | some n => exact if_pos (h n rfl)

theorem readDirection_name (direction : MailScanDirection) :
    readDirection (some (.string direction.name)) = some direction := by
  cases direction <;> rfl

theorem parsePending_save {p : PendingScan} (hfrom : IsBlockNumber p.fromBlock)
    (hto : IsBlockNumber p.toBlock) (hordered : p.fromBlock ≤ p.toBlock)
    (htoken : IsToken p.continuationToken) : parsePending p.save = some p := by
  have hdirection : readDirection (p.save.get? "direction") = some p.direction :=
    readDirection_name p.direction
  have hfromBlock : readBlock (p.save.get? "fromBlock") = some (some p.fromBlock) :=
    readBlock_blockJson (some p.fromBlock) fun n hn => Option.some.inj hn ▸ hfrom
  have htoBlock : readBlock (p.save.get? "toBlock") = some (some p.toBlock) :=
    readBlock_blockJson (some p.toBlock) fun n hn => Option.some.inj hn ▸ hto
  have hnormal : normalizeContinuationToken (p.save.get? "continuationToken") =
      .ok (some p.continuationToken) := normalizeContinuationToken_some.mpr ⟨rfl, htoken⟩
  unfold parsePending
  simp only [hdirection, hfromBlock, htoBlock, hnormal, Option.bind_eq_bind, Option.bind_some,
    guard, if_pos hordered]
  rfl

theorem loadMailScanCursor_save {c : MailScanCursor} (h : c.WellFormed) :
    loadMailScanCursor (some c.save) = c := by
  have hobject : isObject c.save = true := rfl
  have hversion : isVersion1 (c.save.get? "version") = true := rfl
  have holdest : readBlock (c.save.get? "oldestScannedBlock") = some c.oldestScannedBlock :=
    readBlock_blockJson _ h.oldest
  have hnewest : readBlock (c.save.get? "newestScannedBlock") = some c.newestScannedBlock :=
    readBlock_blockJson _ h.newest
  have hpending : c.save.get? "pending" = c.pending.map PendingScan.save :=
    Json.lookup_optional
  have hends : readEnds c.save = some (c.oldestScannedBlock, c.newestScannedBlock) := by
    unfold readEnds
    simp only [hobject, hversion, holdest, hnewest, Option.bind_eq_bind, Option.bind_some, guard]
    rw [if_pos ⟨trivial, trivial⟩, if_pos h.ordered]
    rfl
  unfold loadMailScanCursor
  dsimp only
  rw [hends, hpending]
  dsimp only
  cases hp : c.pending with
  | none =>
    rw [Option.map_none, Option.bind_none, ← hp]
  | some p =>
    obtain ⟨hfrom, hto, hordered, htoken⟩ := h.pending p hp
    rw [Option.map_some, Option.bind_some, parsePending_save hfrom hto hordered htoken, ← hp]

/-! ## What is planned -/

/-- The range of a plan: one that was left unfinished, or a new one. -/
inductive Planned (cursor : MailScanCursor) (latestBlock : Int) (requested : RequestedScan)
    (recentLoaded : Bool) : MailScanRange → Prop
  | resumed {p : PendingScan} : cursor.pending = some p →
    Planned cursor latestBlock requested recentLoaded p.range
  | older {toBlock : Int} : cursor.pending = none → requested = .older →
    toBlock = cursor.oldestScannedBlock.getD (latestBlock + 1) - 1 → 0 ≤ toBlock →
    Planned cursor latestBlock requested recentLoaded
      ⟨.older, max 0 (toBlock - mailScanBlockWindow + 1), toBlock, none⟩
  | recent : cursor.pending = none → requested = .newer → recentLoaded = false →
    Planned cursor latestBlock requested recentLoaded
      ⟨.recent, max 0 (latestBlock - mailScanBlockWindow + 1), latestBlock, none⟩
  | newer {fromBlock : Int} : cursor.pending = none → requested = .newer →
    recentLoaded = true → fromBlock = cursor.newestScannedBlock.getD latestBlock + 1 →
    fromBlock ≤ latestBlock →
    Planned cursor latestBlock requested recentLoaded ⟨.newer, fromBlock, latestBlock, none⟩

variable {cursor : MailScanCursor} {latestBlock : Int} {recentLoaded : Bool}

theorem plan_cases {requested : RequestedScan} {range : MailScanRange}
    (h : planMailScan cursor latestBlock requested recentLoaded = .ok (some range)) :
    IsBlockNumber latestBlock ∧ Planned cursor latestBlock requested recentLoaded range := by
  unfold planMailScan at h
  split at h
  · cases h
  · rename_i hblock
    refine ⟨not_not.mp hblock, ?_⟩
    split at h
    · rename_i p hp
      cases h
      exact .resumed hp
    · rename_i hp
      split at h
      · rename_i holder
        dsimp only at h
        split at h
        · cases h
        · rename_i hto
          cases h
          exact .older hp holder rfl (Int.not_lt.mp hto)
      · rename_i holder
        have hnewer : requested = .newer := by
          cases requested with
          | newer => rfl
          | older => exact absurd rfl holder
        split at h
        · rename_i hloaded
          cases h
          exact .recent hp hnewer hloaded
        · rename_i hloaded
          dsimp only at h
          split at h
          · cases h
          · rename_i hfrom
            cases h
            exact .newer hp hnewer (Bool.not_eq_false _ ▸ hloaded) rfl (Int.not_lt.mp hfrom)

theorem plan_none_newer (h : planMailScan cursor latestBlock .newer recentLoaded = .ok none) :
    recentLoaded = true ∧ latestBlock < cursor.newestScannedBlock.getD latestBlock + 1 := by
  unfold planMailScan at h
  split at h
  · cases h
  · split at h
    · cases h
    · rw [if_neg nofun] at h
      split at h
      · cases h
      · rename_i hloaded
        dsimp only at h
        split at h
        · rename_i hend
          exact ⟨Bool.not_eq_false _ ▸ hloaded, hend⟩
        · cases h

theorem plan_none_older (h : planMailScan cursor latestBlock .older recentLoaded = .ok none) :
    cursor.oldestScannedBlock.getD (latestBlock + 1) - 1 < 0 := by
  unfold planMailScan at h
  split at h
  · cases h
  · split at h
    · cases h
    · rw [if_pos rfl] at h
      dsimp only at h
      split at h
      · rename_i hend
        exact hend
      · cases h

end App20.Mail
