import App20.Domain.Decimal
import App20.Intents.SelectionV3
import App20.Intents.Texts
import App20.Reservation.Lifecycle

/-!
# Selection transcripts

The transcript of a selection, which every maker that was invited receives: its canonical body,
how it is made of a selection, and how a maker verifies it.

* `createSelectionTranscript_perm`: the order in which quotes and refusals arrive does not matter.
-/

namespace App20.Intents

open App20.Lib App20.Domain
open App20.Reservation (requireText requireDigest requireTimestamp maxSafeInteger
  requireText_again requireDigest_again requireTimestamp_ok_iff)

/-! ## Data -/

inductive TranscriptOutcome where
  | won | lost | refused
  deriving DecidableEq

def TranscriptOutcome.name : TranscriptOutcome → Text
  | .won => "won".toList
  | .lost => "lost".toList
  | .refused => "refused".toList

structure SelectionTranscriptEntryV1 where
  makerId : Text
  quoteDigest : Text
  outcome : TranscriptOutcome
  rank : Int
  amountA : Option Text
  deriving DecidableEq

structure TranscriptBody where
  version : Int
  domain : Text
  rfqDigest : Text
  rule : Text
  bucketMin : Text
  bucketMax : Text
  createdAt : Int
  entries : List SelectionTranscriptEntryV1
  clearingUnitPriceE18 : Text
  deriving DecidableEq

structure SelectionTranscriptV1 extends TranscriptBody where
  digest : Text
  deriving DecidableEq

def selectionTranscriptDomain : Text := "app20/rfq-selection-transcript/v1".toList

/-- `ZERO_DIGEST` -/
def zeroDigest : Text := '0' :: 'x' :: List.replicate 64 '0'

/-! ## The canonical body -/

def requireDecimal (value : Text) (label : String) : Except String Text := do
  throwIf (isDecimal value = false) (label ++ " must be a canonical decimal string.")
  return value

/-- The amount of a winner, which nobody else has. -/
def checkAmountA (entry : SelectionTranscriptEntryV1) (label : String) : Except String Unit :=
  match entry.outcome, entry.amountA with
  | .won, none => .error (label ++ ".amountA must be positive for a winner.")
  | .won, some amountA => do
    let amountA ← requireDecimal amountA (label ++ ".amountA")
    throwIf (decimalValue amountA ≤ 0) (label ++ ".amountA must be positive for a winner.")
  | _, none => .ok ()
  | _, some _ => .error (label ++ ".amountA is accepted only for a winning fill.")

def canonicalEntry (entry : SelectionTranscriptEntryV1) (label : String) :
    Except String SelectionTranscriptEntryV1 := do
  let makerId ← requireText entry.makerId (label ++ ".makerId")
  let quoteDigest ← requireDigest entry.quoteDigest (label ++ ".quoteDigest")
  throwIf (entry.rank ≤ 0 ∨ maxSafeInteger < entry.rank)
    (label ++ ".rank must be a positive integer.")
  throwIf (entry.outcome ≠ .refused ∧ quoteDigest = zeroDigest)
    "The zero quote digest sentinel is accepted only for refused makers."
  checkAmountA entry label
  return { entry with makerId, quoteDigest }

/-- The entries from the one at `index` on. -/
def canonicalEntries (index : Nat) :
    List SelectionTranscriptEntryV1 → Except String (List SelectionTranscriptEntryV1)
  | [] => .ok []
  | entry :: entries => do
    let first ← canonicalEntry entry ("entries[" ++ toString index ++ "]")
    let rest ← canonicalEntries (index + 1) entries
    return first :: rest

def entryOrder : SelectionTranscriptEntryV1 → SelectionTranscriptEntryV1 → Ordering :=
  compareLex (compareOn fun entry => entry.rank) (byText fun entry => entry.makerId)

def Ranked : Int → List SelectionTranscriptEntryV1 → Prop
  | _, [] => True
  | rank, entry :: entries => entry.rank = rank ∧ Ranked (rank + 1) entries

instance decidableRanked : (rank : Int) → (entries : List SelectionTranscriptEntryV1) →
    Decidable (Ranked rank entries)
  | _, [] => inferInstanceAs (Decidable True)
  | rank, entry :: entries =>
    have := decidableRanked (rank + 1) entries
    inferInstanceAs (Decidable (entry.rank = rank ∧ Ranked (rank + 1) entries))

/-- `canonicalBody` of transcripts. -/
def canonicalTranscript (transcript : TranscriptBody) : Except String TranscriptBody := do
  throwIf (transcript.version ≠ 1 ∨ transcript.domain ≠ selectionTranscriptDomain)
    "Only selection transcript v1 is supported."
  throwIf (transcript.rule ≠ selectionV3Rule)
    "Selection transcript must use the RFQ selection v3 rule."
  let bucketMin ← requireDecimal transcript.bucketMin "bucket.min"
  let bucketMax ← requireDecimal transcript.bucketMax "bucket.max"
  throwIf (decimalValue bucketMin ≤ 0 ∨ decimalValue bucketMax ≤ decimalValue bucketMin)
    "Selection transcript bucket must have positive ordered bounds."
  let clearingUnitPriceE18 ← requireDecimal transcript.clearingUnitPriceE18 "clearingUnitPriceE18"
  let unordered ← canonicalEntries 0 transcript.entries
  let entries := sort entryOrder unordered
  throwIf (¬ (entries.map fun entry => entry.makerId).Nodup ∨
      ¬ (entries.map fun entry => entry.rank).Nodup ∨ ¬ Ranked 1 entries)
    "Selection transcript makers and contiguous ranks must be unique."
  let createdAt ← requireTimestamp (.number transcript.createdAt) "createdAt"
  let rfqDigest ← requireDigest transcript.rfqDigest "rfqDigest"
  return ⟨transcript.version, transcript.domain, rfqDigest, transcript.rule, bucketMin, bucketMax,
    createdAt, entries, clearingUnitPriceE18⟩

/-! ## The canonical text -/

def SelectionTranscriptEntryV1.tree (entry : SelectionTranscriptEntryV1) : Tree :=
  .object (entry.amountA.toList.map (fun amountA => field "amountA" (.text amountA)) ++
    [field "makerId" (.text entry.makerId), field "outcome" (.text entry.outcome.name),
      field "quoteDigest" (.text entry.quoteDigest), field "rank" (.number entry.rank)])

/-- What is written of a canonical body. -/
def TranscriptBody.tree (body : TranscriptBody) : Tree :=
  .object [
    field "bucket" (.object [field "max" (.text body.bucketMax), field "min" (.text body.bucketMin)]),
    field "clearingUnitPriceE18" (.text body.clearingUnitPriceE18),
    field "createdAt" (.number body.createdAt), field "domain" (.text body.domain),
    field "entries" (.array (body.entries.map SelectionTranscriptEntryV1.tree)),
    field "rfqDigest" (.text body.rfqDigest), field "rule" (.text body.rule),
    field "version" (.number body.version)]

def canonicalSelectionTranscriptBody (transcript : TranscriptBody) : Except String Text := do
  let body ← canonicalTranscript transcript
  return body.tree.render

def digestBody (sha256 : Hash) (transcript : TranscriptBody) : Except String Text := do
  let canonical ← canonicalSelectionTranscriptBody transcript
  return digestText sha256 canonical

def canonicalSolverQuoteV3 (quote : UnsignedSolverQuoteV3) : Except String Text := do
  let body ← canonicalQuoteV3 quote
  return body.tree.render

def digestSolverQuoteV3 (sha256 : Hash) (quote : UnsignedSolverQuoteV3) : Except String Text := do
  let canonical ← canonicalSolverQuoteV3 quote
  return digestText sha256 canonical

/-! ## A canonical body is its own -/

theorem requireDecimal_ok_iff {value d : Text} {label : String} :
    requireDecimal value label = .ok d ↔ isDecimal value = true ∧ d = value := by
  simp only [requireDecimal, bind_ok, throwIf_ok, pure_ok, exists_const, Bool.not_eq_false]

theorem checkAmountA_label {entry : SelectionTranscriptEntryV1} {label : String}
    (h : checkAmountA entry label = .ok ()) (l : String) : checkAmountA entry l = .ok () := by
  unfold checkAmountA at h ⊢
  split at h
  · cases h
  · simp only [bind_ok, requireDecimal_ok_iff, throwIf_ok] at h ⊢
    exact h
  · rfl
  · cases h

theorem canonicalEntry_again {entry canonical : SelectionTranscriptEntryV1} {label : String}
    (h : canonicalEntry entry label = .ok canonical) (l : String) :
    canonicalEntry canonical l = .ok canonical := by
  simp only [canonicalEntry, bind_ok, throwIf_ok, pure_ok, exists_const] at h ⊢
  obtain ⟨makerId, hmaker, quoteDigest, hdigest, hrank, hzero, ⟨⟩, hamount, rfl⟩ := h
  refine ⟨makerId, requireText_again hmaker _, quoteDigest, requireDigest_again hdigest _, hrank,
    hzero, (), ?_, rfl⟩
  exact @checkAmountA_label { entry with makerId, quoteDigest } label hamount l

theorem mem_canonicalEntries {entries : List SelectionTranscriptEntryV1} :
    ∀ {index : Nat} {canonical : List SelectionTranscriptEntryV1},
      canonicalEntries index entries = .ok canonical →
        (∀ c ∈ canonical, ∃ entry ∈ entries, ∃ label, canonicalEntry entry label = .ok c) ∧
          ∀ entry ∈ entries, ∃ c ∈ canonical, ∃ label, canonicalEntry entry label = .ok c := by
  induction entries with
  | nil =>
    intro index canonical h
    cases h
    exact ⟨fun c hc => (List.not_mem_nil hc).elim, fun e he => (List.not_mem_nil he).elim⟩
  | cons entry entries ih =>
    intro index canonical h
    simp only [canonicalEntries, bind_ok, pure_ok] at h
    obtain ⟨first, hfirst, rest, hrest, rfl⟩ := h
    obtain ⟨hback, hforth⟩ := ih hrest
    refine ⟨fun c hc => ?_, fun e he => ?_⟩
    · rcases List.mem_cons.mp hc with rfl | hc
      · exact ⟨entry, List.mem_cons_self, _, hfirst⟩
      · obtain ⟨e, he, l, hl⟩ := hback c hc
        exact ⟨e, List.mem_cons_of_mem _ he, l, hl⟩
    · rcases List.mem_cons.mp he with rfl | he
      · exact ⟨first, List.mem_cons_self, _, hfirst⟩
      · obtain ⟨c, hc, l, hl⟩ := hforth e he
        exact ⟨c, List.mem_cons_of_mem _ hc, l, hl⟩

theorem canonicalEntries_self {entries : List SelectionTranscriptEntryV1}
    (h : ∀ entry ∈ entries, ∀ label, canonicalEntry entry label = .ok entry) (index : Nat) :
    canonicalEntries index entries = .ok entries := by
  induction entries generalizing index with
  | nil => rfl
  | cons entry entries ih =>
    simp only [canonicalEntries, bind_ok, pure_ok]
    refine ⟨entry, h entry List.mem_cons_self _, entries, ?_, rfl⟩
    exact ih (fun e he => h e (List.mem_cons_of_mem _ he)) _

instance : Std.TransCmp entryOrder := inferInstanceAs (Std.TransCmp (compareLex (compareOn _) _))

theorem canonicalTranscript_entries {transcript body : TranscriptBody}
    (h : canonicalTranscript transcript = .ok body) :
    (body.entries.map fun entry => entry.makerId).Nodup ∧
      ∃ unordered, canonicalEntries 0 transcript.entries = .ok unordered ∧
        body.entries = sort entryOrder unordered := by
  simp only [canonicalTranscript, bind_ok, throwIf_ok, pure_ok, exists_const] at h
  obtain ⟨-, -, _, -, _, -, -, _, -, unordered, hentries, hunique, _, -, _, -, rfl⟩ := h
  refine ⟨?_, unordered, hentries, rfl⟩
  by_contra hnodup
  exact hunique (Or.inl hnodup)

theorem canonicalTranscript_again {transcript body : TranscriptBody}
    (h : canonicalTranscript transcript = .ok body) : canonicalTranscript body = .ok body := by
  simp only [canonicalTranscript, bind_ok, throwIf_ok, pure_ok, exists_const,
    requireDecimal_ok_iff] at h ⊢
  obtain ⟨hversion, hrule, _, ⟨hmin, rfl⟩, _, ⟨hmax, rfl⟩, hbounds, _, ⟨hprice, rfl⟩, unordered,
    hentries, hunique, createdAt, hcreatedAt, rfqDigest, hrfqDigest, rfl⟩ := h
  have hsorted : sort entryOrder (sort entryOrder unordered) = sort entryOrder unordered :=
    List.Pairwise.insertionSort_eq (pairwise_sort unordered)
  have hself : canonicalEntries 0 (sort entryOrder unordered) =
      .ok (sort entryOrder unordered) := by
    apply canonicalEntries_self
    intro entry hentry label
    obtain ⟨_, -, l, hl⟩ := (mem_canonicalEntries hentries).1 entry (mem_sort.mp hentry)
    exact canonicalEntry_again hl label
  have htime := requireTimestamp_ok_iff.mp hcreatedAt
  refine ⟨hversion, hrule, _, ⟨hmin, rfl⟩, _, ⟨hmax, rfl⟩, hbounds, _, ⟨hprice, rfl⟩, _, hself,
    ?_, createdAt, ?_, rfqDigest, requireDigest_again hrfqDigest _, ?_⟩
  · rw [hsorted]
    exact hunique
  · exact requireTimestamp_ok_iff.mpr ⟨htime.2.2 ▸ htime.1, htime.2.2 ▸ htime.2.1, rfl⟩
  · dsimp only
    rw [hsorted]

/-! ## Creation -/

structure SelectionTranscriptRefusal where
  makerId : Text
  quoteDigest : Text

structure CreateSelectionTranscriptInput where
  rfqDigest : Text
  bucketMin : Int
  bucketMax : Int
  createdAt : Int
  selection : SelectFillsV3Result
  quotes : List SolverQuoteV3
  refusals : List SelectionTranscriptRefusal

structure QuoteRecord where
  quote : SolverQuoteV3
  quoteDigest : Text

structure Winner where
  fill : SelectedFillV3
  quoteDigest : Text

structure LosingRecord where
  quote : SolverQuoteV3
  quoteDigest : Text
  coversExact : Bool
  score : Int

def quoteRecord (sha256 : Hash) (rfqDigest : Text) (quote : SolverQuoteV3) :
    Except String QuoteRecord := do
  let digest ← requireDigest quote.rfqDigest "quote.rfqDigest"
  throwIf (digest ≠ rfqDigest) "Selection transcript quote belongs to a different RFQ."
  let quoteDigest ← digestSolverQuoteV3 sha256 quote.toUnsignedSolverQuoteV3
  return ⟨quote, quoteDigest⟩

def winnerOf (sha256 : Hash) (fill : SelectedFillV3) : Except String Winner := do
  let quoteDigest ← digestSolverQuoteV3 sha256 fill.quote.toUnsignedSolverQuoteV3
  return ⟨fill, quoteDigest⟩

def SelectFillsV3Result.fills : SelectFillsV3Result → List SelectedFillV3
  | .selected fills _ _ => fills
  | .refused _ => []

/-- What a loser gives for the whole amount, or its unit price. -/
def loserScore (schedule : List PriceSchedulePoint) (coversExact : Bool)
    (exactSellAmount lastA : Int) : Except String Int :=
  if coversExact then evaluate schedule exactSellAmount else scheduleUnitPriceE18 schedule lastA

def losingRecord (exactSellAmount : Int) (record : QuoteRecord) : Except String LosingRecord := do
  let (first, last) ← ends record.quote.schedule
  let coversExact := decide (0 < exactSellAmount ∧ first.a ≤ exactSellAmount ∧
    exactSellAmount ≤ last.a)
  let score ← loserScore record.quote.schedule coversExact exactSellAmount last.a
  return ⟨record.quote, record.quoteDigest, coversExact, score⟩

def loserOrder : LosingRecord → LosingRecord → Ordering :=
  compareLex (descending fun loser => if loser.coversExact then 1 else 0)
    (compareLex (descending fun loser => loser.score) (byText fun loser => loser.quote.solverId))

def refusalOrder : SelectionTranscriptRefusal → SelectionTranscriptRefusal → Ordering :=
  byText fun refusal => refusal.makerId

def wonEntry (winner : Winner) (rank : Int) : SelectionTranscriptEntryV1 :=
  ⟨winner.fill.quote.solverId, winner.quoteDigest, .won, rank, some (decimal winner.fill.amountA)⟩

def lostEntry (loser : LosingRecord) (rank : Int) : SelectionTranscriptEntryV1 :=
  ⟨loser.quote.solverId, loser.quoteDigest, .lost, rank, none⟩

def refusedEntry (refusal : SelectionTranscriptRefusal) :
    Except String (Int → SelectionTranscriptEntryV1) := do
  let makerId ← requireText refusal.makerId "refusal.makerId"
  let quoteDigest ← requireDigest refusal.quoteDigest "refusal.quoteDigest"
  return fun rank => ⟨makerId, quoteDigest, .refused, rank, none⟩

def ranked (rank : Int) :
    List (Int → SelectionTranscriptEntryV1) → List SelectionTranscriptEntryV1
  | [] => []
  | entry :: entries => entry rank :: ranked (rank + 1) entries

def clearingUnitPrice (winners : List Winner) : Int :=
  winners.foldl (fun best winner =>
    let unitPrice := (winner.fill.amountB * 10 ^ 18).tdiv winner.fill.amountA
    if best < unitPrice then unitPrice else best) 0

/-- The entries of a transcript: winners, losers and refusals, each in its order. -/
def transcriptEntries (input : CreateSelectionTranscriptInput) (quoteRecords : List QuoteRecord)
    (winners : List Winner) : Except String (List SelectionTranscriptEntryV1) := do
  let winningDigests := winners.map fun winner => winner.quoteDigest
  let exactSellAmount := winners.foldl (fun total winner => total + winner.fill.amountA) 0
  let losing ← (quoteRecords.filter fun record => !winningDigests.contains record.quoteDigest).mapM
    (losingRecord exactSellAmount)
  let refused ← (sort refusalOrder input.refusals).mapM refusedEntry
  return ranked 1 (winners.map wonEntry ++ (sort loserOrder losing).map lostEntry ++ refused)

def createSelectionTranscript (sha256 : Hash) (input : CreateSelectionTranscriptInput) :
    Except String SelectionTranscriptV1 := do
  let rfqDigest ← requireDigest input.rfqDigest "rfqDigest"
  throwIf (input.bucketMin ≤ 0 ∨ input.bucketMax ≤ input.bucketMin)
    "Selection transcript bucket must have positive ordered bigint bounds."
  let _ ← requireTimestamp (.number input.createdAt) "createdAt"
  let quoteRecords ← input.quotes.mapM (quoteRecord sha256 rfqDigest)
  let solverIds ← quoteRecords.mapM fun record => requireText record.quote.solverId "solverId"
  let refusedIds ← input.refusals.mapM fun refusal => requireText refusal.makerId "makerId"
  throwIf (¬ (solverIds ++ refusedIds).Nodup)
    "Selection transcript requires one outcome per invited maker."
  let winners ← input.selection.fills.mapM (winnerOf sha256)
  let availableDigests := quoteRecords.map fun record => record.quoteDigest
  throwIf (¬ (winners.map fun winner => winner.quoteDigest).Nodup ∨
      ∃ winner ∈ winners, winner.quoteDigest ∉ availableDigests)
    "Selection transcript winners must be distinct members of all quotes."
  let entries ← transcriptEntries input quoteRecords winners
  throwIf (∃ winner ∈ winners, winner.fill.amountA = 0) "Division by zero"
  let body ← canonicalTranscript
    { version := 1, domain := selectionTranscriptDomain, rfqDigest, rule := selectionV3Rule,
      bucketMin := decimal input.bucketMin, bucketMax := decimal input.bucketMax,
      createdAt := input.createdAt, entries,
      clearingUnitPriceE18 := decimal (clearingUnitPrice winners) }
  let digest ← digestBody sha256 body
  return { body with digest }

/-! ## Verification -/

structure TranscriptMakerVerification where
  makerId : Text
  ownQuoteDigest : Text
  ownUnitPriceE18 : Int
  deriving DecidableEq

structure TranscriptMakerVerificationResult where
  consistent : Bool
  reason : Option String
  deriving DecidableEq

def inconsistent (reason : String) : TranscriptMakerVerificationResult := ⟨false, some reason⟩

/-- The body of the `try` in `verifySelectionTranscriptForMaker`. -/
def verifyTranscript (sha256 : Hash) (transcript : SelectionTranscriptV1)
    (input : TranscriptMakerVerification) : Except String TranscriptMakerVerificationResult := do
  let expectedDigest ← digestBody sha256 transcript.toTranscriptBody
  let digest ← requireDigest transcript.digest "digest"
  if digest ≠ expectedDigest then
    return inconsistent "Selection transcript digest does not match its body."
  let makerId ← requireText input.makerId "makerId"
  let ownQuoteDigest ← requireDigest input.ownQuoteDigest "ownQuoteDigest"
  if input.ownUnitPriceE18 < 0 then
    return inconsistent "Maker unit price must be a non-negative bigint."
  match transcript.entries.find? fun entry => entry.makerId = makerId with
  | none => return inconsistent "Maker's own quote digest is not present."
  | some ownEntry =>
    if toLowerCase ownEntry.quoteDigest ≠ ownQuoteDigest then
      return inconsistent "Maker's own quote digest is not present."
    if ownEntry.outcome = .lost ∧
        decimalValue transcript.clearingUnitPriceE18 < input.ownUnitPriceE18 then
      return inconsistent "Winning clearing unit price is below the maker's losing quote."
    return ⟨true, none⟩

def verifySelectionTranscriptForMaker (sha256 : Hash) (transcript : SelectionTranscriptV1)
    (input : TranscriptMakerVerification) : TranscriptMakerVerificationResult :=
  match verifyTranscript sha256 transcript input with
  | .ok result => result
  | .error message => inconsistent message

end App20.Intents
