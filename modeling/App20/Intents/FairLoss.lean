import App20.Intents.Selections

/-!
# What losers find in a transcript

A maker that loses compares the best unit price of the winning fills with its own at its largest
amount. The selection does not go by that price alone.

* `loser_consistent_iff`: a loser of an honest transcript is content exactly if the best winning
  unit price is not below its own.
* `loser_of_several_consistent`: so is each loser of a selection of several fills that could have
  served part of the amount.
-/

namespace App20.Intents

open App20.Lib App20.Domain
open App20.Reservation (requireText requireDigest requireText_ok_iff requireDigest_of_isHex32)

/-! ## Fills of a selection -/

variable {maxFills : Int} {priced : PricedQuote} {l : List PricedQuote}
  {selection : SelectFillsV3Result} {schedule : List PriceSchedulePoint} {quote : SolverQuoteV3}

theorem fillQuotes_keeps :
    ∀ {remainder : Int} {fills : List SelectedFillV3} {result : List SelectedFillV3 × Int},
      fillQuotes maxFills l remainder fills = .ok result → ∀ fill ∈ fills, fill ∈ result.1 := by
  induction l with
  | nil =>
    intro remainder fills result h
    cases h
    exact fun _ hfill => hfill
  | cons priced rest ih =>
    intro remainder fills result h fill hfill
    cases fillQuotes_cons h with
    | stop _ hresult =>
      rw [hresult]
      exact hfill
    | skip first last _ _ h => exact ih h fill hfill
    | fill first last amountA amountB _ _ _ _ h => exact ih h fill (List.mem_append_left _ hfill)

theorem fills_mem {input : SelectFillsV3Input} (h : selectFillsV3 input = .ok selection) :
    ∀ fill ∈ selection.fills, fill.quote ∈ input.quotes := by
  intro fill hfill
  cases selection with
  | refused reason => exact (List.not_mem_nil hfill).elim
  | selected fills totalB rule =>
    obtain ⟨hchecked, hpath⟩ := selectFillsV3_path h
    exact (hpath.sells hchecked.1 hchecked.2.1).parts.1.subset
      (List.mem_map_of_mem (List.mem_map_of_mem hfill))

/-! ## The best unit price -/

def fillUnitPriceE18 (fill : SelectedFillV3) : Int := (fill.amountB * 10 ^ 18).tdiv fill.amountA

def bestUnitPrice (fills : List SelectedFillV3) : Int :=
  fills.foldl (fun best fill => max best (fillUnitPriceE18 fill)) 0

theorem le_foldl_max {α : Type} (f : α → Int) (l : List α) :
    ∀ start : Int, start ≤ l.foldl (fun best a => max best (f a)) start ∧
      ∀ a ∈ l, f a ≤ l.foldl (fun best a => max best (f a)) start := by
  induction l with
  | nil => exact fun start => ⟨le_refl start, fun a ha => (List.not_mem_nil ha).elim⟩
  | cons x l ih =>
    intro start
    obtain ⟨hstart, hrest⟩ := ih (max start (f x))
    refine ⟨le_trans (le_max_left _ _) hstart, fun a ha => ?_⟩
    rcases List.mem_cons.mp ha with rfl | ha
    · exact le_trans (le_max_right _ _) hstart
    · exact hrest a ha

theorem bestUnitPrice_nonneg (fills : List SelectedFillV3) : 0 ≤ bestUnitPrice fills :=
  (le_foldl_max fillUnitPriceE18 fills 0).1

theorem clearingUnitPrice_eq (winners : List Winner) :
    clearingUnitPrice winners = bestUnitPrice (winners.map fun winner => winner.fill) := by
  unfold clearingUnitPrice bestUnitPrice
  rw [List.foldl_map]
  congr 1
  funext best winner
  unfold fillUnitPriceE18
  dsimp only
  rcases lt_or_ge best ((winner.fill.amountB * 10 ^ 18).tdiv winner.fill.amountA) with hlt | hge
  · rw [if_pos hlt, max_eq_right hlt.le]
  · rw [if_neg (not_lt.mpr hge), max_eq_left hge]

/-! ## Selections of several fills -/

theorem priceOf_ok (h : priceOf quote = .ok priced) :
    ∃ first last amountB, ends quote.schedule = .ok (first, last) ∧ first.a ≤ last.a ∧
      evaluate quote.schedule last.a = .ok amountB ∧
        priced = ⟨quote, (amountB * 10 ^ 18).tdiv last.a⟩ := by
  simp only [priceOf, scheduleUnitPriceE18, bind_ok, pure_ok] at h
  obtain ⟨⟨first, last⟩, hends, _, ⟨amountB, hvalue, rfl⟩, rfl⟩ := h
  obtain ⟨first', last', hends', hle, -⟩ := evaluate_bounds hvalue
  rw [hends] at hends'
  cases hends'
  exact ⟨first, last, amountB, hends, hle, hvalue, rfl⟩

/-- The first quote that is filled is filled to its largest amount, at the best price among the
quotes that can serve part of the amount. -/
theorem fillQuotes_best {amount : Int} (hmax : 1 ≤ maxFills) (hpos : 0 < amount)
    (huncovered : ∀ p ∈ l, covers amount p.quote = false)
    (hpriced : ∀ p ∈ l, priceOf p.quote = .ok p)
    (hsorted : l.Pairwise fun a b => (priceOrder a b).isLE = true)
    {result : List SelectedFillV3 × Int} (h : fillQuotes maxFills l amount [] = .ok result)
    (hmem : priced ∈ l) {first last : PriceSchedulePoint}
    (hends : ends priced.quote.schedule = .ok (first, last)) (hserves : first.a ≤ amount) :
    ∃ fill ∈ result.1, priced.unitPriceE18 ≤ fillUnitPriceE18 fill := by
  induction l with
  | nil => exact (List.not_mem_nil hmem).elim
  | cons head rest ih =>
    obtain ⟨hfirst, hrest⟩ := List.pairwise_cons.mp hsorted
    obtain ⟨lower, upper, amountB, hhead, hle, hvalue, hprice⟩ :=
      priceOf_ok (hpriced head List.mem_cons_self)
    cases fillQuotes_cons h with
    | stop hdone _ =>
      rw [List.length_nil] at hdone
      omega
    | skip lower' upper' hsides hsmall h =>
      rw [hhead] at hsides
      cases hsides
      rcases List.mem_cons.mp hmem with rfl | hmem
      · -- a quote that can serve part of the amount is not skipped
        rw [hhead] at hends
        cases hends
        split at hsmall <;> omega
      · exact ih (fun p hp => huncovered p (List.mem_cons_of_mem _ hp))
          (fun p hp => hpriced p (List.mem_cons_of_mem _ hp)) hrest h hmem
    | fill lower' upper' amountA amountB' hsides hamount hlarge hvalue' h =>
      rw [hhead] at hsides
      cases hsides
      have hbelow : ¬ amount < upper.a := by
        intro hlt
        rw [if_pos hlt] at hamount
        have hcovers := huncovered head List.mem_cons_self
        simp only [covers, hhead, Bool.and_eq_false_iff, decide_eq_false_iff_not] at hcovers
        omega
      rw [if_neg hbelow] at hamount
      rw [hamount, hvalue] at hvalue'
      cases hvalue'
      refine ⟨_, fillQuotes_keeps h _ (List.mem_append_right _ (List.mem_singleton_self _)), ?_⟩
      have hhere : fillUnitPriceE18 ⟨head.quote, amountA, amountB⟩ = head.unitPriceE18 := by
        rw [hamount, hprice]
        rfl
      rw [hhere]
      rcases List.mem_cons.mp hmem with rfl | hmem
      · exact le_refl _
      · exact descending_le (hfirst priced hmem)

/-- In a selection of several fills the best price is not below the price of a quote that can serve
part of the amount. -/
theorem several_best {input : SelectFillsV3Input} (h : selectFillsV3 input = .ok selection)
    (hselected : selection.fills ≠ [])
    (huncovered : ∀ quote ∈ input.quotes, covers input.exactSellAmount quote = false)
    (hquote : quote ∈ input.quotes) {first last : PriceSchedulePoint}
    (hends : ends quote.schedule = .ok (first, last)) (hserves : first.a ≤ input.exactSellAmount)
    {unitPriceE18 : Int} (hprice : scheduleUnitPriceE18 quote.schedule last.a = .ok unitPriceE18) :
    unitPriceE18 ≤ bestUnitPrice selection.fills := by
  obtain ⟨⟨hpos, hmax, -⟩, hpath⟩ := selectFillsV3_path h
  cases selection with
  | refused reason => exact absurd rfl hselected
  | selected fills totalB rule =>
  cases hpath with
  | empty _ h => cases h
  | single candidates best others hfound hsorted _ =>
    obtain ⟨hmem, hcovered⟩ := best_covers hfound hsorted
    rw [huncovered best.quote hmem] at hcovered
    cases hcovered
  | loop ordered filled remainder _ hpriced hfilled h =>
    have hown : priceOf quote = .ok ⟨quote, unitPriceE18⟩ := by
      simp only [priceOf, bind_ok, pure_ok]
      exact ⟨(first, last), hends, unitPriceE18, hprice, rfl⟩
    obtain ⟨priced, hmem, hpriced'⟩ := exists_of_mapM hpriced quote hquote
    rw [hown] at hpriced'
    cases hpriced'
    have hself : ∀ p ∈ sort priceOrder ordered, p.quote ∈ input.quotes ∧ priceOf p.quote = .ok p := by
      intro p hp
      obtain ⟨q, hq, hqp⟩ := mem_of_mapM hpriced p (mem_sort.mp hp)
      rw [priceOf_quote hqp]
      exact ⟨hq, hqp⟩
    obtain ⟨fill, hfill, hle⟩ := fillQuotes_best hmax hpos
      (fun p hp => huncovered p.quote (hself p hp).1) (fun p hp => (hself p hp).2)
      (pairwise_sort ordered) hfilled (mem_sort.mpr hmem) hends hserves
    split at h
    · cases h
    · obtain ⟨rfl, -⟩ := selectFills_selected h
      exact le_trans hle ((le_foldl_max fillUnitPriceE18 _ 0).2 fill hfill)

/-! ## How a transcript comes about -/

/-- The parts of a transcript that was made. -/
structure Created (sha256 : Hash) (input : CreateSelectionTranscriptInput)
    (transcript : SelectionTranscriptV1) (rfqDigest : Text) (quoteRecords : List QuoteRecord)
    (winners : List Winner) (entries : List SelectionTranscriptEntryV1) : Prop where
  records : input.quotes.mapM (quoteRecord sha256 rfqDigest) = .ok quoteRecords
  solverIds : ∃ ids, quoteRecords.mapM (fun record => requireText record.quote.solverId
    "solverId") = .ok ids
  oneEach : OneOutcomeEach quoteRecords input.refusals
  winners_eq : input.selection.fills.mapM (winnerOf sha256) = .ok winners
  entries_eq : transcriptEntries input quoteRecords winners = .ok entries
  body : ∃ unordered, canonicalEntries 0 entries = .ok unordered ∧
    transcript.entries = sort entryOrder unordered
  makers : (transcript.entries.map fun entry => entry.makerId).Nodup
  price : transcript.clearingUnitPriceE18 = decimal (clearingUnitPrice winners)
  digest : digestBody sha256 transcript.toTranscriptBody = .ok transcript.digest

theorem canonicalTranscript_price {transcript body : TranscriptBody}
    (h : canonicalTranscript transcript = .ok body) :
    body.clearingUnitPriceE18 = transcript.clearingUnitPriceE18 := by
  simp only [canonicalTranscript, bind_ok, throwIf_ok, pure_ok, exists_const,
    requireDecimal_ok_iff] at h
  obtain ⟨-, -, _, ⟨-, rfl⟩, _, ⟨-, rfl⟩, -, _, ⟨-, rfl⟩, _, -, -, _, -, _, -, rfl⟩ := h
  rfl

theorem createSelectionTranscript_ok {sha256 : Hash} {input : CreateSelectionTranscriptInput}
    {transcript : SelectionTranscriptV1}
    (h : createSelectionTranscript sha256 input = .ok transcript) :
    ∃ rfqDigest quoteRecords winners entries,
      Created sha256 input transcript rfqDigest quoteRecords winners entries := by
  unfold createSelectionTranscript at h
  dsimp only at h
  simp only [bind_ok, throwIf_ok, pure_ok] at h
  obtain ⟨rfqDigest, -, _, -, _, -, quoteRecords, hrecords, solverIds, hsolverIds, refusedIds,
    hrefusedIds, _, hone, winners, hwinners, _, -, entries, hentries, _, -, body, hbody, digest,
    hdigest, rfl⟩ := h
  have hids : OneOutcomeEach quoteRecords input.refusals := by
    rw [mapM_eq_map requireText_eq hsolverIds, mapM_eq_map requireText_eq hrefusedIds] at hone
    exact not_not.mp hone
  obtain ⟨hmakers, hsorted⟩ := canonicalTranscript_entries hbody
  exact ⟨rfqDigest, quoteRecords, winners, entries, hrecords, ⟨solverIds, hsolverIds⟩, hids,
    hwinners, hentries, hsorted, hmakers, canonicalTranscript_price hbody, hdigest⟩

/-! ## The entry of a loser -/

theorem mem_ranked {entry : Int → SelectionTranscriptEntryV1}
    {l : List (Int → SelectionTranscriptEntryV1)} (h : entry ∈ l) :
    ∀ first : Int, ∃ rank, entry rank ∈ ranked first l := by
  induction l with
  | nil => exact (List.not_mem_nil h).elim
  | cons x l ih =>
    intro first
    rcases List.mem_cons.mp h with rfl | h
    · exact ⟨first, List.mem_cons_self⟩
    · obtain ⟨rank, hrank⟩ := ih h (first + 1)
      exact ⟨rank, List.mem_cons_of_mem _ hrank⟩

theorem digestSolverQuoteV3_ok {sha256 : Hash} {quote : UnsignedSolverQuoteV3} {digest : Text}
    (h : digestSolverQuoteV3 sha256 quote = .ok digest) :
    ∃ canonical, canonicalSolverQuoteV3 quote = .ok canonical ∧
      digest = digestText sha256 canonical := by
  simp only [digestSolverQuoteV3, bind_ok, pure_ok] at h
  exact h

theorem quoteRecord_ok {sha256 : Hash} {rfqDigest : Text} {record : QuoteRecord}
    (h : quoteRecord sha256 rfqDigest quote = .ok record) :
    record.quote = quote ∧
      digestSolverQuoteV3 sha256 quote.toUnsignedSolverQuoteV3 = .ok record.quoteDigest := by
  simp only [quoteRecord, bind_ok, pure_ok, throwIf_ok] at h
  obtain ⟨_, -, _, -, digest, hdigest, rfl⟩ := h
  exact ⟨rfl, hdigest⟩

theorem winnerOf_ok {sha256 : Hash} {fill : SelectedFillV3} {winner : Winner}
    (h : winnerOf sha256 fill = .ok winner) :
    winner.fill = fill ∧
      digestSolverQuoteV3 sha256 fill.quote.toUnsignedSolverQuoteV3 = .ok winner.quoteDigest := by
  simp only [winnerOf, bind_ok, pure_ok] at h
  obtain ⟨digest, hdigest, rfl⟩ := h
  exact ⟨rfl, hdigest⟩

section

variable {sha256 : Hash} {input : CreateSelectionTranscriptInput}
  {transcript : SelectionTranscriptV1} {rfqDigest : Text} {quoteRecords : List QuoteRecord}
  {winners : List Winner} {entries : List SelectionTranscriptEntryV1}

section

variable (h : Created sha256 input transcript rfqDigest quoteRecords winners entries)

include h

theorem Created.clearing :
    decimalValue transcript.clearingUnitPriceE18 = bestUnitPrice input.selection.fills := by
  have hfills : winners.map (fun winner => winner.fill) = input.selection.fills :=
    map_of_mapM (fun h => (winnerOf_ok h).1) h.winners_eq
  rw [h.price, clearingUnitPrice_eq, hfills, decimalValue_decimal (bestUnitPrice_nonneg _)]

theorem Created.losing_entry {record : QuoteRecord} (hrecord : record ∈ quoteRecords)
    (hloses : ∀ winner ∈ winners, winner.quoteDigest ≠ record.quoteDigest) :
    ∃ entry ∈ transcript.entries, entry.makerId = trim record.quote.solverId ∧
      (∃ label, requireDigest record.quoteDigest label = .ok entry.quoteDigest) ∧
        entry.outcome = .lost := by
  have hentries := h.entries_eq
  unfold transcriptEntries at hentries
  simp only [bind_ok, pure_ok] at hentries
  obtain ⟨losing, hlosing, refused, -, rfl⟩ := hentries
  have hkept : record ∈ quoteRecords.filter fun record =>
      !(winners.map fun winner => winner.quoteDigest).contains record.quoteDigest := by
    apply List.mem_filter.mpr
    refine ⟨hrecord, ?_⟩
    rw [Bool.not_eq_true', ← Bool.not_eq_true, List.contains_iff_mem, List.mem_map]
    intro hwinner
    obtain ⟨winner, hmem, hdigest⟩ := hwinner
    exact hloses winner hmem hdigest
  obtain ⟨loser, hloser, hrecorded⟩ := exists_of_mapM hlosing record hkept
  obtain ⟨hquote, hdigest⟩ := losingRecord_record hrecorded
  have hlost : lostEntry loser ∈ (sort loserOrder losing).map lostEntry :=
    List.mem_map_of_mem (mem_sort.mpr hloser)
  obtain ⟨rank, hrank⟩ := mem_ranked
    (List.mem_append_left refused (List.mem_append_right (winners.map wonEntry) hlost)) 1
  obtain ⟨unordered, hunordered, hsorted⟩ := h.body
  obtain ⟨entry, hentry, label, hcanonical⟩ := (mem_canonicalEntries hunordered).2 _ hrank
  simp only [canonicalEntry, bind_ok, throwIf_ok, pure_ok, exists_const] at hcanonical
  obtain ⟨makerId, hmaker, quoteDigest, hentryDigest, -, -, _, -, rfl⟩ := hcanonical
  refine ⟨{ lostEntry loser rank with makerId, quoteDigest }, ?_, ?_, ⟨label ++ ".quoteDigest", ?_⟩,
    rfl⟩
  · rw [hsorted, mem_sort]
    exact hentry
  · rw [← hquote]
    exact (requireText_ok_iff.mp hmaker).2
  · rw [← hdigest]
    exact hentryDigest

theorem Created.find_entry {entry : SelectionTranscriptEntryV1}
    (hentry : entry ∈ transcript.entries) {makerId : Text} (hmaker : entry.makerId = makerId) :
    transcript.entries.find? (fun entry => entry.makerId = makerId) = some entry := by
  cases hfind : transcript.entries.find? (fun entry => entry.makerId = makerId) with
  | none =>
    have hnot := List.find?_eq_none.mp hfind entry hentry
    exact absurd (decide_eq_true hmaker) hnot
  | some found =>
    have hfound : found.makerId = makerId := by simpa using List.find?_some hfind
    have hsame := List.inj_on_of_nodup_map h.makers (List.mem_of_find?_eq_some hfind) hentry
      (hfound.trans hmaker.symm)
    rw [hsame]

end

end

/-! ## What a loser finds -/

/-- What the journal of a maker passes of its own quote: its digest, and its unit price at its
largest amount. -/
def ownVerification (sha256 : Hash) (quote : SolverQuoteV3) :
    Except String TranscriptMakerVerification := do
  let (_, last) ← ends quote.schedule
  let ownQuoteDigest ← digestSolverQuoteV3 sha256 quote.toUnsignedSolverQuoteV3
  let ownUnitPriceE18 ← scheduleUnitPriceE18 quote.schedule last.a
  return ⟨quote.solverId, ownQuoteDigest, ownUnitPriceE18⟩

def NoCollision (sha256 : Hash) (quotes : List SolverQuoteV3) : Prop :=
  ∀ p ∈ quotes, ∀ q ∈ quotes, ∀ s t, canonicalSolverQuoteV3 p.toUnsignedSolverQuoteV3 = .ok s →
      canonicalSolverQuoteV3 q.toUnsignedSolverQuoteV3 = .ok t → sha256 s = sha256 t → s = t

theorem solverId_of_canonical {p q : UnsignedSolverQuoteV3} {canonical : Text}
    (hp : canonicalSolverQuoteV3 p = .ok canonical)
    (hq : canonicalSolverQuoteV3 q = .ok canonical) : trim p.solverId = trim q.solverId := by
  have hsolver : ∀ {quote body : UnsignedSolverQuoteV3}, canonicalQuoteV3 quote = .ok body →
      body.solverId = trim quote.solverId := by
    intro quote body h
    simp only [canonicalQuoteV3, bind_ok, pure_ok] at h
    obtain ⟨_, -, _, -, _, -, _, -, _, -, _, -, _, -, _, -, _, -, _, -, _, -, _, -, _, -, _, -, _, -,
      _, -, _, -, _, -, _, -, _, -, _, -, _, -, solverId, hsolverId, rfl⟩ := h
    exact (requireText_ok_iff.mp hsolverId).2
  simp only [canonicalSolverQuoteV3, bind_ok, pure_ok] at hp hq
  obtain ⟨x, hx, hcanonical⟩ := hp
  obtain ⟨y, hy, rfl⟩ := hq
  have hxy := UnsignedSolverQuoteV3.tree_injective (Tree.render_injective hcanonical)
  rw [← hsolver hx, ← hsolver hy, hxy]

theorem scheduleUnitPriceE18_nonneg {amountA price : Int}
    (h : scheduleUnitPriceE18 schedule amountA = .ok price) : 0 ≤ price := by
  simp only [scheduleUnitPriceE18, bind_ok, pure_ok] at h
  obtain ⟨amountB, hvalue, rfl⟩ := h
  unfold evaluate at hvalue
  cases hevaluated : evaluatePriceSchedule schedule amountA with
  | error e =>
    rw [hevaluated] at hvalue
    cases hvalue
  | ok b =>
    rw [hevaluated] at hvalue
    cases hvalue
    obtain ⟨-, x, y, rfl, rfl, -⟩ := evaluatePriceSchedule_ok_iff.mp hevaluated
    exact Int.tdiv_nonneg (by positivity) (by positivity)

section

variable {sha256 : Hash} {input : CreateSelectionTranscriptInput}
  {transcript : SelectionTranscriptV1} {rfqDigest : Text} {quoteRecords : List QuoteRecord}
  {winners : List Winner} {entries : List SelectionTranscriptEntryV1}

theorem Created.loser_digest
    (h : Created sha256 input transcript rfqDigest quoteRecords winners entries)
    (hcollision : NoCollision sha256 input.quotes)
    (hfills : ∀ fill ∈ input.selection.fills, fill.quote ∈ input.quotes)
    (hquote : quote ∈ input.quotes) (hloses : ∀ fill ∈ input.selection.fills, fill.quote ≠ quote)
    {digest : Text}
    (hdigest : digestSolverQuoteV3 sha256 quote.toUnsignedSolverQuoteV3 = .ok digest) :
    ∀ winner ∈ winners, winner.quoteDigest ≠ digest := by
  intro winner hwinner hsame
  obtain ⟨fill, hfill, hwon⟩ := mem_of_mapM h.winners_eq winner hwinner
  obtain ⟨-, hwinnerDigest⟩ := winnerOf_ok hwon
  obtain ⟨s, hs, hsdigest⟩ := digestSolverQuoteV3_ok hwinnerDigest
  obtain ⟨t, ht, htdigest⟩ := digestSolverQuoteV3_ok hdigest
  rw [hsdigest, htdigest] at hsame
  have hst := hcollision _ (hfills fill hfill) _ hquote s t hs ht (digestText_inj hsame)
  rw [← hst] at ht
  -- both quotes are then of one solver, which has one record
  obtain ⟨p, hp, hpfill⟩ := exists_of_mapM h.records _ (hfills fill hfill)
  obtain ⟨q, hq, hqquote⟩ := exists_of_mapM h.records _ hquote
  have hids := solverId_of_canonical hs ht
  rw [← (quoteRecord_ok hpfill).1, ← (quoteRecord_ok hqquote).1] at hids
  have hpq := List.inj_on_of_nodup_map (List.nodup_append.mp h.oneEach).1 hp hq hids
  apply hloses fill hfill
  rw [← (quoteRecord_ok hpfill).1, ← (quoteRecord_ok hqquote).1, hpq]

theorem Created.verify_loser
    (h : Created sha256 input transcript rfqDigest quoteRecords winners entries)
    (hquote : quote ∈ input.quotes) {own : TranscriptMakerVerification}
    (hown : ownVerification sha256 quote = .ok own)
    (hloses : ∀ winner ∈ winners, winner.quoteDigest ≠ own.ownQuoteDigest) :
    (verifySelectionTranscriptForMaker sha256 transcript own).consistent = true ↔
      own.ownUnitPriceE18 ≤ bestUnitPrice input.selection.fills := by
  simp only [ownVerification, bind_ok, pure_ok] at hown
  obtain ⟨⟨first, last⟩, -, digest, hdigest, price, hprice, rfl⟩ := hown
  obtain ⟨record, hrecord, hrecorded⟩ := exists_of_mapM h.records quote hquote
  obtain ⟨hrecordQuote, hrecordDigest⟩ := quoteRecord_ok hrecorded
  rw [hdigest] at hrecordDigest
  cases hrecordDigest
  obtain ⟨entry, hentry, hmaker, ⟨label, hentryDigest⟩, houtcome⟩ := h.losing_entry hrecord hloses
  rw [hrecordQuote] at hmaker
  obtain ⟨ids, hids⟩ := h.solverIds
  obtain ⟨id, -, hid⟩ := exists_of_mapM hids record hrecord
  rw [hrecordQuote] at hid
  have hidtext := requireText_ok_iff.mp hid
  obtain ⟨canonical, -, hcanonical⟩ := digestSolverQuoteV3_ok hdigest
  have hhex : isHex32 record.quoteDigest = true := hcanonical ▸ digestText_isHex32 sha256 canonical
  rw [requireDigest_of_isHex32 hhex] at hentryDigest
  have hsameDigest : entry.quoteDigest = record.quoteDigest := (Except.ok.inj hentryDigest).symm
  have hbody := h.digest
  simp only [digestBody, bind_ok, pure_ok] at hbody
  obtain ⟨text, htext, hdigestText⟩ := hbody
  have hdigestHex : isHex32 transcript.digest = true := hdigestText ▸ digestText_isHex32 sha256 text
  have hlower : toLowerCase entry.quoteDigest = record.quoteDigest := by
    rw [hsameDigest]
    exact (normal_of_isHex32 hhex).2.1
  have hname : requireText quote.solverId "makerId" = .ok (trim quote.solverId) :=
    requireText_ok_iff.mpr ⟨hidtext.1, rfl⟩
  have hnonneg : ¬ price < 0 := Int.not_lt.mpr (scheduleUnitPriceE18_nonneg hprice)
  have hfind := h.find_entry hentry hmaker
  have hverify : verifyTranscript sha256 transcript ⟨quote.solverId, record.quoteDigest, price⟩ =
      .ok (if decimalValue transcript.clearingUnitPriceE18 < price then
        inconsistent "Winning clearing unit price is below the maker's losing quote."
        else ⟨true, none⟩) := by
    unfold verifyTranscript
    simp only [h.digest, ok_bind, requireDigest_of_isHex32 hdigestHex, ne_eq,
      not_true_eq_false, if_false, hname, requireDigest_of_isHex32 hhex, hnonneg, hfind, hlower,
      houtcome, true_and]
    split <;> rfl
  unfold verifySelectionTranscriptForMaker
  rw [hverify, h.clearing]
  dsimp only
  split
  · rename_i hlt
    exact ⟨fun hfalse => Bool.noConfusion hfalse, fun hle => absurd hle (Int.not_le.mpr hlt)⟩
  · rename_i hge
    exact ⟨fun _ => Int.not_lt.mp hge, fun _ => rfl⟩

end

theorem evaluate_last (h : Accepted schedule) :
    ∃ first last amountB, ends schedule = .ok (first, last) ∧
      evaluate schedule last.a = .ok amountB := by
  obtain ⟨⟨first, last⟩, hends⟩ := h.ends
  exact ⟨first, last, last.b, hends, (ends_spec h hends).1.2.2⟩

/-- Every loser of an honest transcript is content exactly if the best unit price of the winning
fills is not below its own at its largest amount. If no quote covers the amount alone, every loser
is content that could have served part of it. -/
theorem loser_consistent_iff (sha256 : Hash) (quotes : List SolverQuoteV3)
    (exactSellAmount floorBuyAmount : Int) (maxFills : Option Int) (selection : SelectFillsV3Result)
    (hselect : selectFillsV3 ⟨quotes, exactSellAmount, floorBuyAmount, maxFills⟩ = .ok selection)
    (rfqDigest : Text) (bucketMin bucketMax createdAt : Int)
    (refusals : List SelectionTranscriptRefusal) (transcript : SelectionTranscriptV1)
    (hcreate : createSelectionTranscript sha256
      ⟨rfqDigest, bucketMin, bucketMax, createdAt, selection, quotes, refusals⟩ = .ok transcript)
    (hcollision : NoCollision sha256 quotes) (quote : SolverQuoteV3) (hquote : quote ∈ quotes)
    (hloses : ∀ fill ∈ selection.fills, fill.quote ≠ quote) :
    ∃ own, ownVerification sha256 quote = .ok own ∧
      ((verifySelectionTranscriptForMaker sha256 transcript own).consistent = true ↔
        own.ownUnitPriceE18 ≤ bestUnitPrice selection.fills) ∧
      (selection.fills ≠ [] → (∀ q ∈ quotes, covers exactSellAmount q = false) →
        (∀ first ∈ quote.schedule.head?, first.a ≤ exactSellAmount) →
          (verifySelectionTranscriptForMaker sha256 transcript own).consistent = true) := by
  obtain ⟨digest, quoteRecords, winners, entries, hcreated⟩ := createSelectionTranscript_ok hcreate
  obtain ⟨first, last, amountB, hends, hvalue⟩ :=
    evaluate_last ((selectFillsV3_path hselect).1.2.2 quote hquote)
  obtain ⟨record, -, hrecorded⟩ := exists_of_mapM hcreated.records quote hquote
  have hdigest := (quoteRecord_ok hrecorded).2
  have hprice : scheduleUnitPriceE18 quote.schedule last.a =
      .ok ((amountB * 10 ^ 18).tdiv last.a) := by
    simp only [scheduleUnitPriceE18, bind_ok, pure_ok]
    exact ⟨amountB, hvalue, rfl⟩
  have hown : ownVerification sha256 quote =
      .ok ⟨quote.solverId, record.quoteDigest, (amountB * 10 ^ 18).tdiv last.a⟩ := by
    simp only [ownVerification, bind_ok, pure_ok]
    exact ⟨(first, last), hends, _, hdigest, _, hprice, rfl⟩
  have hverify := hcreated.verify_loser hquote hown
    (hcreated.loser_digest hcollision (fills_mem hselect) hquote hloses hdigest)
  refine ⟨_, hown, hverify, fun hselected huncovered hserves => ?_⟩
  rw [hverify]
  have hhead : quote.schedule.head? = some first := by
    unfold ends at hends
    split at hends
    · rename_i hhead _
      cases hends
      exact hhead
    · cases hends
  exact several_best hselect hselected huncovered hquote hends (hserves first hhead) hprice

/-! ## A loser at a better price -/

/-- A quote for the whole amount, a better price for a part of it, and a worse one for the whole. -/
def wholeQuote : SolverQuoteV3 := sampleQuote "maker-a".toList 'a' [⟨1, 3⟩, ⟨10, 30⟩]
def partQuote : SolverQuoteV3 := sampleQuote "maker-b".toList 'b' [⟨1, 4⟩, ⟨6, 24⟩]
def worseQuote : SolverQuoteV3 := sampleQuote "maker-see".toList 'c' [⟨1, 2⟩, ⟨10, 25⟩]
def fixtureQuotes : List SolverQuoteV3 := [partQuote, worseQuote, wholeQuote]

def wordBytes (n : Nat) : Vector (Fin 256) 32 :=
  Vector.ofFn fun i => Fin.ofNat 256 (n / 256 ^ (31 - i.val))

/-- SHA-256 of the texts of these quotes and of their transcript, which all differ in length. -/
def fixtureHash : Hash := fun text =>
  wordBytes (match text.length with
    | 606 => 0x826234a8eade6cfbc01c2d75f9708ea81a0cf1413e570e09c51b34e0462c7466
    | 605 => 0x636d6d3b6537de5c164e667c3db43dca401056e04559dcac4c7d485567ca629a
    | 608 => 0x0cc27e6c0c5d44a3974be9360c2eacafeed33b6a6c37ee1f4a252fa2382ea745
    | 692 => 0x8142c2379695497995d5fbc3505230f6a264cce08c9ddfc3ba908bccde41636b
    | _ => 0)

def fixtureSelection : SelectFillsV3Result := .selected [⟨wholeQuote, 10, 30⟩] 30 selectionV3Rule

def fixtureTranscript : SelectionTranscriptV1 where
  version := 1
  domain := selectionTranscriptDomain
  rfqDigest := '0' :: 'x' :: List.replicate 64 '1'
  rule := selectionV3Rule
  bucketMin := "1".toList
  bucketMax := "10".toList
  createdAt := 1900000000
  entries := [
    ⟨"maker-a".toList, digestText fixtureHash (List.replicate 606 ' '), .won, 1,
      some "10".toList⟩,
    ⟨"maker-see".toList, digestText fixtureHash (List.replicate 608 ' '), .lost, 2, none⟩,
    ⟨"maker-b".toList, digestText fixtureHash (List.replicate 605 ' '), .lost, 3, none⟩]
  clearingUnitPriceE18 := "3000000000000000000".toList
  digest := digestText fixtureHash (List.replicate 692 ' ')

theorem fixture_selected :
    selectFillsV3 ⟨fixtureQuotes, 10, 0, none⟩ = .ok fixtureSelection := by decide +kernel

theorem fixture_created :
    createSelectionTranscript fixtureHash ⟨wholeQuote.rfqDigest, 1, 10, 1900000000,
      fixtureSelection, fixtureQuotes, []⟩ = .ok fixtureTranscript := by decide +kernel

/-- The worse quote for the whole amount finds the transcript consistent. -/
theorem loser_consistent_iff_worse :
    ∃ own, ownVerification fixtureHash worseQuote = .ok own ∧
      (verifySelectionTranscriptForMaker fixtureHash fixtureTranscript own).consistent = true := by
  have hdigests : ∀ p ∈ fixtureQuotes, ∀ q ∈ fixtureQuotes,
      digestSolverQuoteV3 fixtureHash p.toUnsignedSolverQuoteV3 =
        digestSolverQuoteV3 fixtureHash q.toUnsignedSolverQuoteV3 →
      canonicalSolverQuoteV3 p.toUnsignedSolverQuoteV3 =
        canonicalSolverQuoteV3 q.toUnsignedSolverQuoteV3 := by decide +kernel
  have hcollision : NoCollision fixtureHash fixtureQuotes := by
    intro p hp q hq s t hs ht hst
    have hsame := hdigests p hp q hq (by
      unfold digestSolverQuoteV3
      rw [hs, ht, ok_bind, ok_bind]
      unfold digestText
      rw [hst])
    rw [hs, ht] at hsame
    exact Except.ok.inj hsame
  obtain ⟨own, hown, hiff, -⟩ := loser_consistent_iff fixtureHash fixtureQuotes 10 0 none
    fixtureSelection fixture_selected wholeQuote.rfqDigest 1 10 1900000000 [] fixtureTranscript
    fixture_created
    hcollision worseQuote (by decide +kernel) (by decide +kernel)
  refine ⟨own, hown, hiff.mpr ?_⟩
  have hprice : ownVerification fixtureHash worseQuote = .ok ⟨worseQuote.solverId,
      digestText fixtureHash (List.replicate 608 ' '), 2500000000000000000⟩ := by
    decide +kernel
  rw [hown] at hprice
  rw [Except.ok.inj hprice]
  decide +kernel

/-- The better price for a part of the amount loses to the quote for the whole, and finds the
transcript inconsistent. -/
theorem part_loser_inconsistent :
    selectFillsV3 ⟨fixtureQuotes, 10, 0, none⟩ = .ok fixtureSelection ∧
      createSelectionTranscript fixtureHash ⟨wholeQuote.rfqDigest, 1, 10, 1900000000,
        fixtureSelection, fixtureQuotes, []⟩ = .ok fixtureTranscript ∧
      partQuote ∈ fixtureQuotes ∧ (∀ fill ∈ fixtureSelection.fills, fill.quote ≠ partQuote) ∧
      (ownVerification fixtureHash partQuote).map
          (fun own => (verifySelectionTranscriptForMaker fixtureHash fixtureTranscript own)) =
        .ok (inconsistent "Winning clearing unit price is below the maker's losing quote.") := by
  refine ⟨fixture_selected, fixture_created, ?_⟩
  decide +kernel

end App20.Intents
