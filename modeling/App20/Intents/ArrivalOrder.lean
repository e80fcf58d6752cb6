import App20.Intents.Transcript

/-!
# The order of arrival

The selection and its transcript do not depend on the order in which quotes and refusals arrive.

* `createSelectionTranscript_perm`: the transcript, whose makers all differ.
* `arrival_order_irrelevant`: both.
-/

namespace App20.Intents

open App20.Lib App20.Domain
open App20.Reservation (requireText requireText_ok_iff)

/-! ## Orders -/

instance : Std.TransCmp loserOrder := inferInstanceAs (Std.TransCmp (compareLex _ (compareLex _ _)))

instance : Std.TransCmp refusalOrder := inferInstanceAs (Std.TransCmp (byText _))

theorem losingRecord_record {amount : Int} {record : QuoteRecord} {loser : LosingRecord}
    (h : losingRecord amount record = .ok loser) :
    loser.quote = record.quote ∧ loser.quoteDigest = record.quoteDigest := by
  simp only [losingRecord, bind_ok, pure_ok] at h
  obtain ⟨_, -, _, -, rfl⟩ := h
  exact ⟨rfl, rfl⟩

/-- The makers of the records and of the refusals, none of them twice. -/
def OneOutcomeEach (quoteRecords : List QuoteRecord)
    (refusals : List SelectionTranscriptRefusal) : Prop :=
  (quoteRecords.map (fun record => trim record.quote.solverId) ++
    refusals.map fun refusal => trim refusal.makerId).Nodup

variable {quoteRecords : List QuoteRecord} {refusals : List SelectionTranscriptRefusal}

theorem transcriptEntries_perm {input : CreateSelectionTranscriptInput}
    {quoteRecords' : List QuoteRecord} {winners : List Winner} {quotes : List SolverQuoteV3}
    {entries : List SelectionTranscriptEntryV1} (hrecords : quoteRecords.Perm quoteRecords')
    (hrefusals : input.refusals.Perm refusals) (hone : OneOutcomeEach quoteRecords input.refusals)
    (h : transcriptEntries input quoteRecords winners = .ok entries) :
    transcriptEntries { input with quotes, refusals } quoteRecords' winners = .ok entries := by
  unfold transcriptEntries at h ⊢
  simp only [bind_ok, pure_ok] at h ⊢
  obtain ⟨losing, hlosing, refused, hrefused, hentries⟩ := h
  obtain ⟨losing', hlosing', hsame⟩ := mapM_perm (hrecords.filter _) hlosing
  have hlosers : sort loserOrder losing = sort loserOrder losing' := by
    apply sort_perm hsame
    intro a ha b hb htie
    obtain ⟨p, hp, hpa⟩ := mem_of_mapM hlosing a ha
    obtain ⟨q, hq, hqb⟩ := mem_of_mapM hlosing b hb
    have hids : a.quote.solverId = b.quote.solverId :=
      compareText_eq (compareLex_eq (compareLex_eq htie).2).2
    rw [(losingRecord_record hpa).1, (losingRecord_record hqb).1] at hids
    have hpq := List.inj_on_of_nodup_map (List.nodup_append.mp hone).1 (List.mem_of_mem_filter hp)
      (List.mem_of_mem_filter hq) (congrArg trim hids)
    rw [hpq, hqb] at hpa
    exact (Except.ok.inj hpa).symm
  have hrefusals' : sort refusalOrder input.refusals = sort refusalOrder refusals := by
    apply sort_perm hrefusals
    intro a ha b hb htie
    exact List.inj_on_of_nodup_map (List.nodup_append.mp hone).2.1 ha hb
      (congrArg trim (compareText_eq htie))
  refine ⟨losing', hlosing', refused, ?_, ?_⟩
  · rw [← hrefusals']
    exact hrefused
  · rw [← hlosers]
    exact hentries

/-! ## Transcripts -/

theorem requireText_eq {label : String} {α : Type} {f : α → Text} {a : α} {t : Text}
    (h : requireText (f a) label = .ok t) : t = trim (f a) := (requireText_ok_iff.mp h).2

theorem createSelectionTranscript_perm {sha256 : Hash} (input : CreateSelectionTranscriptInput)
    {quotes : List SolverQuoteV3} {transcript : SelectionTranscriptV1}
    (hquotes : input.quotes.Perm quotes) (hrefusals : input.refusals.Perm refusals)
    (h : createSelectionTranscript sha256 input = .ok transcript) :
    createSelectionTranscript sha256 { input with quotes, refusals } = .ok transcript := by
  unfold createSelectionTranscript at h ⊢
  dsimp only at h ⊢
  simp only [bind_ok, throwIf_ok] at h ⊢
  obtain ⟨rfqDigest, hrfqDigest, u, hbucket, createdAt, hcreatedAt, quoteRecords, hrecords,
    solverIds, hsolverIds, refusedIds, hrefusedIds, v, hone, winners, hwinners, w, hmembers,
    entries, hentries, hbody⟩ := h
  obtain ⟨quoteRecords', hrecords', hsame⟩ := mapM_perm hquotes hrecords
  obtain ⟨solverIds', hsolverIds', hsolvers⟩ := mapM_perm hsame hsolverIds
  obtain ⟨refusedIds', hrefusedIds', hrefused⟩ := mapM_perm hrefusals hrefusedIds
  have hids : OneOutcomeEach quoteRecords input.refusals := by
    rw [mapM_eq_map requireText_eq hsolverIds, mapM_eq_map requireText_eq hrefusedIds] at hone
    exact not_not.mp hone
  refine ⟨rfqDigest, hrfqDigest, u, hbucket, createdAt, hcreatedAt, quoteRecords', hrecords',
    solverIds', hsolverIds', refusedIds', hrefusedIds', v, ?_, winners, hwinners, w, ?_, entries,
    transcriptEntries_perm hsame hrefusals hids hentries, hbody⟩
  · rw [← (hsolvers.append hrefused).nodup_iff]
    exact hone
  · intro hnot
    refine hmembers (hnot.imp_right fun ⟨winner, hwinner, hdigest⟩ => ⟨winner, hwinner, ?_⟩)
    rw [(hsame.map _).mem_iff]
    exact hdigest

/-- Quotes and refusals in any order: selections and transcripts are the same. -/
theorem arrival_order_irrelevant (sha256 : Hash) (quotes quotes' : List SolverQuoteV3)
    (refusals refusals' : List SelectionTranscriptRefusal) (hquotes : quotes.Perm quotes')
    (hrefusals : refusals.Perm refusals') (hdistinct : (quotes.map identity).Nodup) :
    (∀ exactSellAmount floorBuyAmount maxFills result,
      selectFillsV3 ⟨quotes, exactSellAmount, floorBuyAmount, maxFills⟩ = .ok result ↔
        selectFillsV3 ⟨quotes', exactSellAmount, floorBuyAmount, maxFills⟩ = .ok result) ∧
      ∀ rfqDigest bucketMin bucketMax createdAt selection transcript,
        createSelectionTranscript sha256
            ⟨rfqDigest, bucketMin, bucketMax, createdAt, selection, quotes, refusals⟩ =
              .ok transcript ↔ createSelectionTranscript sha256
            ⟨rfqDigest, bucketMin, bucketMax, createdAt, selection, quotes', refusals'⟩ =
              .ok transcript := by
  have hdistinct' : (quotes'.map identity).Nodup := (hquotes.map identity).nodup_iff.mp hdistinct
  refine ⟨fun exactSellAmount floorBuyAmount maxFills result => ⟨fun h => ?_, fun h => ?_⟩,
    fun rfqDigest bucketMin bucketMax createdAt selection transcript =>
      ⟨fun h => ?_, fun h => ?_⟩⟩
  · exact selectFillsV3_perm ⟨quotes, exactSellAmount, floorBuyAmount, maxFills⟩ hquotes hdistinct h
  · exact selectFillsV3_perm ⟨quotes', exactSellAmount, floorBuyAmount, maxFills⟩ hquotes.symm
      hdistinct' h
  · exact createSelectionTranscript_perm
      ⟨rfqDigest, bucketMin, bucketMax, createdAt, selection, quotes, refusals⟩ hquotes hrefusals h
  · exact createSelectionTranscript_perm
      ⟨rfqDigest, bucketMin, bucketMax, createdAt, selection, quotes', refusals'⟩ hquotes.symm
      hrefusals.symm h

/-! ## Two makers -/

/-- A quote of a solver whose lock and nonce are made of one digit. -/
def sampleQuote (solverId : Text) (digit : Char) (schedule : List PriceSchedulePoint) :
    SolverQuoteV3 where
  domain := quoteV3Domain
  version := 3
  solverId := solverId
  quoteKeyId := "q1".toList
  nonce := '0' :: 'x' :: List.replicate 64 digit
  pool := "starknet:APP20_LOCALNET".toList
  helper := "0x1".toList
  escrowAddress := "0x1".toList
  rfqDigest := '0' :: 'x' :: List.replicate 64 '1'
  rfqFelt := "0x2".toList
  sellToken := "0x3".toList
  buyToken := "0x4".toList
  schedule := schedule
  lockId := ['0', 'x', digit]
  lockTicket := "0x6".toList
  lockTransactionHash := "0x7".toList
  lockExpiresAt := 1900000090
  spreadBps := 1
  pricingProvenance := "fixture".toList
  quotedAt := 1899999995
  quoteExpiresAt := 1900000030
  signature := []

/-- Two quotes that are equal but for their makers. -/
def tiedQuotes : List SolverQuoteV3 :=
  [sampleQuote "maker-b".toList 'b' [⟨1, 2⟩, ⟨10, 20⟩],
    sampleQuote "maker-a".toList 'a' [⟨1, 2⟩, ⟨10, 20⟩]]

/-- The first maker by its name is chosen, also when it arrives last. -/
theorem arrival_order_irrelevant_tied :
    selectFillsV3 ⟨tiedQuotes.reverse, 10, 5, none⟩ =
      .ok (.selected [⟨sampleQuote "maker-a".toList 'a' [⟨1, 2⟩, ⟨10, 20⟩], 10, 20⟩] 20
        selectionV3Rule) := by
  have hsame := (arrival_order_irrelevant (fun _ => Vector.replicate 32 0) tiedQuotes
    tiedQuotes.reverse [] [] (List.reverse_perm tiedQuotes).symm (List.Perm.refl _)
    (by decide +kernel)).1
  rw [← hsame]
  decide +kernel

end App20.Intents
