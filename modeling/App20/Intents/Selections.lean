import App20.Intents.ArrivalOrder
import App20.Intents.PriceInversion
import Mathlib.Algebra.Order.BigOperators.Group.List

/-!
# What a selection sells

A selection takes the best quote that covers the exact amount, or else fills the amount quote by
quote, in the order of their unit prices.

* `selectFillsV3_sound`: it sells the exact amount to quotes of their own, each at its price.
* `insufficientDepth_true`: the depth is insufficient when it is said to be, for quotes that sell any
  amount from one.
* `depth_overlooked`: it need not be when quotes have a least amount.
-/

namespace App20.Intents

open App20.Lib App20.Domain

/-! ## Schedules -/

variable {schedule : List PriceSchedulePoint} {quote : SolverQuoteV3} {first last : PriceSchedulePoint}

variable {amountA amountB : Int}

theorem evaluate_ok_iff : evaluate schedule amountA = .ok amountB ↔
    evaluatePriceSchedule schedule amountA = .ok amountB := by
  unfold evaluate
  cases evaluatePriceSchedule schedule amountA <;> simp [Except.mapError]

theorem ends_cons (first : PriceSchedulePoint) (rest : List PriceSchedulePoint) :
    ends (first :: rest) = .ok (first, (first :: rest).getLast (List.cons_ne_nil _ _)) := by
  unfold ends
  rw [List.getLast?_eq_some_getLast (List.cons_ne_nil first rest)]
  rfl

theorem Accepted.ends (h : Accepted schedule) : ∃ sides, ends schedule = .ok sides := by
  cases schedule with
  | nil => exact absurd h.len_pos (by simp)
  | cons point rest => exact ⟨_, ends_cons point rest⟩

/-- The domain of an accepted schedule reaches from its first to its last point. -/
theorem ends_spec (h : Accepted schedule) (hends : ends schedule = .ok (first, last)) :
    (0 < first.a ∧ first.a ≤ last.a ∧ evaluate schedule last.a = .ok last.b) ∧
      ∀ amountA, (∃ amountB, evaluate schedule amountA = .ok amountB) ↔
        first.a ≤ amountA ∧ amountA ≤ last.a := by
  cases schedule with
  | nil => exact absurd h.len_pos (by simp)
  | cons point rest =>
    rw [ends_cons] at hends
    cases hends
    have hdomain := evaluatePriceSchedule_isOk_iff h
    have hlast := evaluatePriceSchedule_point h (List.getLast_mem (List.cons_ne_nil _ rest))
    simp only [evaluate_ok_iff]
    exact ⟨⟨(h.values _ List.mem_cons_self).1.1, ((hdomain _).mp ⟨_, hlast⟩).1, hlast⟩, hdomain⟩

theorem evaluate_bounds (h : evaluate schedule amountA = .ok amountB) :
    ∃ first last, ends schedule = .ok (first, last) ∧ first.a ≤ amountA ∧ amountA ≤ last.a := by
  have haccepted := (evaluatePriceSchedule_ok_iff.mp (evaluate_ok_iff.mp h)).1
  cases schedule with
  | nil => exact absurd haccepted.len_pos (by simp)
  | cons point rest =>
    exact ⟨point, _, ends_cons point rest,
      ((ends_spec haccepted (ends_cons point rest)).2 amountA).mp ⟨amountB, h⟩⟩

/-! ## The loop -/

inductive FillTurn (maxFills : Int) (priced : PricedQuote) (rest : List PricedQuote)
    (remainder : Int) (fills : List SelectedFillV3) (result : List SelectedFillV3 × Int) :
    Prop where
  | stop (done : remainder = 0 ∨ maxFills ≤ fills.length) (h : result = (fills, remainder))
  | skip (first last : PriceSchedulePoint) (sides : ends priced.quote.schedule = .ok (first, last))
      (small : (if remainder < last.a then remainder else last.a) < first.a)
      (h : fillQuotes maxFills rest remainder fills = .ok result)
  | fill (first last : PriceSchedulePoint) (amountA amountB : Int)
      (sides : ends priced.quote.schedule = .ok (first, last))
      (amount : amountA = if remainder < last.a then remainder else last.a)
      (large : first.a ≤ amountA) (value : evaluate priced.quote.schedule amountA = .ok amountB)
      (h : fillQuotes maxFills rest (remainder - amountA)
        (fills ++ [⟨priced.quote, amountA, amountB⟩]) = .ok result)

variable {maxFills remainder amount : Int} {priced : PricedQuote} {l rest : List PricedQuote}
  {fills : List SelectedFillV3} {result : List SelectedFillV3 × Int} {quotes : List SolverQuoteV3}

theorem fillQuotes_cons (h : fillQuotes maxFills (priced :: rest) remainder fills = .ok result) :
    FillTurn maxFills priced rest remainder fills result := by
  rw [fillQuotes] at h
  split at h
  · rename_i hdone
    exact .stop hdone (Except.ok.inj h).symm
  · simp only [bind_ok] at h
    obtain ⟨⟨first, last⟩, hsides, h⟩ := h
    dsimp only at h
    generalize hamount : (if remainder < last.a then remainder else last.a) = amountA at h
    split at h
    · rename_i hsmall
      exact .skip first last hsides (hamount ▸ hsmall) h
    · rename_i hlarge
      simp only [bind_ok] at h
      obtain ⟨amountB, hvalue, h⟩ := h
      exact .fill first last amountA amountB hsides hamount.symm (Int.not_lt.mp hlarge) hvalue h

structure Filled (maxFills amount : Int) (quotes : List SolverQuoteV3)
    (fills : List SelectedFillV3) (remainder : Int) : Prop where
  sum : (fills.map (·.amountA)).sum + remainder = amount
  nonneg : 0 ≤ remainder
  own : (fills.map (·.quote)).Sublist quotes
  capped : fills.length ≤ maxFills
  paid : ∀ fill ∈ fills, evaluate fill.quote.schedule fill.amountA = .ok fill.amountB

theorem Filled.start (hnonneg : 0 ≤ amount) (hmax : 0 ≤ maxFills) :
    Filled maxFills amount [] [] amount where
  sum := by simp
  nonneg := hnonneg
  own := List.Sublist.refl []
  capped := hmax
  paid := by simp

theorem Filled.skip (h : Filled maxFills amount quotes fills remainder)
    (more : List SolverQuoteV3) : Filled maxFills amount (quotes ++ more) fills remainder :=
  { h with own := h.own.trans (List.sublist_append_left quotes more) }

theorem fillQuotes_filled (hfilled : Filled maxFills amount quotes fills remainder)
    (h : fillQuotes maxFills l remainder fills = .ok result) :
    Filled maxFills amount (quotes ++ l.map (·.quote)) result.1 result.2 := by
  induction l generalizing remainder fills quotes with
  | nil =>
    cases h
    exact hfilled.skip []
  | cons priced rest ih =>
    by_cases hdone : remainder = 0 ∨ maxFills ≤ fills.length
    · rw [fillQuotes, if_pos hdone] at h
      cases h
      exact hfilled.skip _
    · rw [List.map_cons, List.append_cons]
      cases fillQuotes_cons h with
      | stop hstop _ => exact absurd hstop hdone
      | skip _ _ _ _ h => exact ih (hfilled.skip _) h
      | fill first last amountA amountB _ hamount _ hvalue h =>
        have hle : amountA ≤ remainder := by
          rw [hamount]
          split <;> omega
        refine ih ⟨?_, by omega, ?_, ?_, ?_⟩ h
        · have hsum := hfilled.sum
          simp only [List.map_append, List.map_singleton, List.sum_append, List.sum_singleton]
          omega
        · simpa using hfilled.own
        · rw [List.length_append, List.length_singleton]
          omega
        · intro fill hfill
          rcases List.mem_append.mp hfill with hfill | hfill
          · exact hfilled.paid fill hfill
          · rwa [List.mem_singleton.mp hfill]

/-- The largest amount that a quote sells. -/
def depth (quote : SolverQuoteV3) : Int := (quote.schedule.getLast?.map (·.a)).getD 0

theorem ends_ok (hends : ends quote.schedule = .ok (first, last)) :
    quote.schedule.head? = some first ∧ depth quote = last.a := by
  unfold ends at hends
  split at hends
  · rename_i hfirst hlast
    cases hends
    refine ⟨hfirst, ?_⟩
    rw [depth, hlast]
    rfl
  · cases hends

/-- When the quotes that the cap lets in sell any amount from one on, the loop leaves what is above
the depth of all of them. -/
theorem fillQuotes_depth {n : Nat} (hnonneg : 0 ≤ remainder)
    (hroom : (fills.length : Int) + n = maxFills)
    (hany : ∀ priced ∈ l.take n, Accepted priced.quote.schedule ∧
      ∀ first ∈ priced.quote.schedule.head?, first.a = 1)
    (h : fillQuotes maxFills l remainder fills = .ok result) :
    result.2 ≤ 0 ∨ remainder = result.2 + ((l.take n).map fun priced => depth priced.quote).sum := by
  induction l generalizing remainder fills n with
  | nil =>
    cases h
    exact Or.inr (by simp)
  | cons priced rest ih =>
    by_cases hdone : remainder = 0 ∨ maxFills ≤ fills.length
    · rw [fillQuotes, if_pos hdone] at h
      cases h
      refine hdone.imp (fun hzero => hzero.le) (fun hfull => ?_)
      obtain rfl : n = 0 := by omega
      simp
    · obtain ⟨k, rfl⟩ := Nat.exists_eq_succ_of_ne_zero (n := n) (by omega)
      rw [List.take_succ_cons] at hany ⊢
      obtain ⟨⟨haccepted, hone⟩, hany⟩ := List.forall_mem_cons.mp hany
      cases fillQuotes_cons h with
      | stop hstop _ => exact absurd hstop hdone
      | skip first last hsides hsmall _ =>
        obtain ⟨⟨-, hle, -⟩, -⟩ := ends_spec haccepted hsides
        have hfirst := hone first (ends_ok hsides).1
        split at hsmall <;> omega
      | fill first last amountA amountB hsides hamount _ _ h =>
        rw [List.map_cons, List.sum_cons, (ends_ok hsides).2]
        split at hamount
        · left
          rw [hamount, Int.sub_self] at h
          have hstop : ∀ fills, fillQuotes maxFills rest 0 fills = .ok (fills, 0) := by
            cases rest <;> simp [fillQuotes]
          rw [hstop] at h
          cases h
          exact le_refl _
        · have hrest := ih (by omega) (by simp; omega) hany h
          omega

/-! ## The whole selection -/

inductive SelectionPath (input : SelectFillsV3Input) (selection : SelectFillsV3Result) : Prop
  | empty (none : input.quotes = []) (h : selection = .refused .noQuotes)
  | single (candidates : List SelectedFillV3) (best : SelectedFillV3) (others : List SelectedFillV3)
      (found : (input.quotes.filter (covers input.exactSellAmount)).mapM
        (candidateOf input.exactSellAmount) = .ok candidates)
      (sorted : sort singleOrder candidates = best :: others)
      (h : selection = selectFills [best] input.floorBuyAmount)
  | loop (ordered : List PricedQuote) (fills : List SelectedFillV3) (remainder : Int)
      (uncovered : ∀ quote ∈ input.quotes, covers input.exactSellAmount quote = false)
      (priced : input.quotes.mapM priceOf = .ok ordered)
      (filled : fillQuotes (input.maxFills.getD 4) (sort priceOrder ordered)
        input.exactSellAmount [] = .ok (fills, remainder))
      (h : selection = if 0 < remainder then .refused .insufficientDepth
        else selectFills fills input.floorBuyAmount)

variable {input : SelectFillsV3Input} {selection : SelectFillsV3Result}

theorem selectFillsV3_path (h : selectFillsV3 input = .ok selection) :
    (0 < input.exactSellAmount ∧ 1 ≤ input.maxFills.getD 4 ∧
      ∀ quote ∈ input.quotes, Accepted quote.schedule) ∧ SelectionPath input selection := by
  unfold selectFillsV3 at h
  dsimp only at h
  simp only [bind_ok, throwIf_ok] at h
  obtain ⟨_, hexact, _, -, _, hmax, h⟩ := h
  split at h
  · rename_i hempty
    cases h
    have hnone := List.isEmpty_iff.mp hempty
    refine ⟨⟨by omega, by omega, fun quote hquote => ?_⟩, .empty hnone rfl⟩
    rw [hnone] at hquote
    cases hquote
  · simp only [bind_ok] at h
    obtain ⟨⟨⟩, hschedules, candidates, hcandidates, h⟩ := h
    refine ⟨⟨by omega, by omega, fun quote hquote => (assertPriceSchedule_ok_iff _).mp
      (assertSchedules_ok.mp hschedules quote hquote)⟩, ?_⟩
    split at h
    · rename_i best others hbest
      exact .single candidates best others hcandidates hbest (Except.ok.inj h).symm
    · rename_i hnone
      unfold selectPartial at h
      simp only [bind_ok] at h
      obtain ⟨ordered, hordered, ⟨fills, remainder⟩, hfilled, h⟩ := h
      refine .loop ordered fills remainder (fun quote hquote => ?_) hordered hfilled ?_
      · by_contra hcovers
        have hkept := List.mem_filter.mpr ⟨hquote, (Bool.not_eq_false _).mp hcovers⟩
        obtain ⟨c, hc, -⟩ := exists_of_mapM hcandidates quote hkept
        rw [← @mem_sort _ singleOrder, hnone] at hc
        cases hc
      · dsimp only at h
        split at h <;> cases h <;> simp_all

/-- Parts of the exact amount, each sold within its domain by a quote of its own. -/
def Splits (input : SelectFillsV3Input) (parts : List (SolverQuoteV3 × Int)) : Prop :=
  (parts.map Prod.fst).Subperm input.quotes ∧ parts.length ≤ input.maxFills.getD 4 ∧
    (∀ part ∈ parts, covers part.2 part.1 = true) ∧ (parts.map Prod.snd).sum = input.exactSellAmount

/-- What a selection sells, and for how much. -/
structure Sells (input : SelectFillsV3Input) (fills : List SelectedFillV3) (totalB : Int) : Prop where
  parts : Splits input (fills.map fun fill => (fill.quote, fill.amountA))
  paid : ∀ fill ∈ fills, evaluatePriceSchedule fill.quote.schedule fill.amountA = .ok fill.amountB
  total : totalB = (fills.map (·.amountB)).sum
  floor : input.floorBuyAmount ≤ totalB
  best : ∀ quote ∈ input.quotes, covers input.exactSellAmount quote = true →
    fills.length = 1 ∧ ∃ amountB, amountB ≤ totalB ∧
      evaluatePriceSchedule quote.schedule input.exactSellAmount = .ok amountB

theorem selectFills_selected {fills' : List SelectedFillV3} {floor totalB : Int} {rule : Text}
    (h : SelectFillsV3Result.selected fills' totalB rule = selectFills fills floor) :
    fills' = fills ∧ totalB = (fills.map (·.amountB)).sum ∧ floor ≤ totalB := by
  unfold selectFills at h
  dsimp only at h
  split at h
  · cases h
  · rename_i hfloor
    cases h
    refine ⟨rfl, ?_, Int.not_lt.mp hfloor⟩
    rw [List.sum_eq_foldl, List.foldl_map]

theorem covers_of_evaluate (h : evaluate quote.schedule amountA = .ok amountB) :
    covers amountA quote = true := by
  obtain ⟨first, last, hends, hlow, hhigh⟩ := evaluate_bounds h
  unfold covers
  rw [hends]
  exact Bool.and_eq_true_iff.mpr ⟨decide_eq_true hlow, decide_eq_true hhigh⟩

theorem priceOf_quotes {ordered : List PricedQuote}
    (h : quotes.mapM priceOf = .ok ordered) : ordered.map (·.quote) = quotes := by
  induction quotes generalizing ordered with
  | nil =>
    cases h
    rfl
  | cons quote quotes ih =>
    simp only [List.mapM_cons, bind_ok, pure_ok] at h
    obtain ⟨priced, hpriced, rest, hrest, rfl⟩ := h
    rw [List.map_cons, priceOf_quote hpriced, ih hrest]

theorem sort_quotes {ordered : List PricedQuote} (h : quotes.mapM priceOf = .ok ordered) :
    ((sort priceOrder ordered).map (·.quote)).Perm quotes := by
  have hperm := (perm_sort priceOrder ordered).map (·.quote)
  rwa [priceOf_quotes h] at hperm

theorem best_covers {amount : Int} {candidates others : List SelectedFillV3} {best : SelectedFillV3}
    (hfound : (quotes.filter (covers amount)).mapM (candidateOf amount) = .ok candidates)
    (hsorted : sort singleOrder candidates = best :: others) :
    best.quote ∈ quotes ∧ covers amount best.quote = true := by
  have hbest : best ∈ candidates := by
    rw [← @mem_sort _ singleOrder, hsorted]
    exact List.mem_cons_self
  obtain ⟨quote, hquote, hcandidate⟩ := mem_of_mapM hfound best hbest
  rw [candidateOf_quote hcandidate]
  exact List.mem_filter.mp hquote

theorem SelectionPath.sells {totalB : Int} {rule : Text} (hpos : 0 < input.exactSellAmount)
    (hmax : 1 ≤ input.maxFills.getD 4) (hpath : SelectionPath input (.selected fills totalB rule)) :
    Sells input fills totalB := by
  cases hpath with
  | empty _ h => cases h
  | single candidates best others hfound hsorted h =>
    obtain ⟨rfl, htotal, hfloor⟩ := selectFills_selected h
    obtain ⟨hown, hcovers⟩ := best_covers hfound hsorted
    have hvalue : ∀ c ∈ candidates, c.amountA = input.exactSellAmount ∧
        evaluatePriceSchedule c.quote.schedule input.exactSellAmount = .ok c.amountB := by
      intro c hc
      obtain ⟨quote, -, hcandidate⟩ := mem_of_mapM hfound c hc
      simp only [candidateOf, bind_ok, pure_ok] at hcandidate
      obtain ⟨amountB, hvalue, rfl⟩ := hcandidate
      exact ⟨rfl, evaluate_ok_iff.mp hvalue⟩
    have hsort := @pairwise_sort _ singleOrder _ candidates
    have hmem : ∀ c, c ∈ candidates ↔ c = best ∨ c ∈ others := by
      intro c
      rw [← @mem_sort _ singleOrder, hsorted, List.mem_cons]
    rw [hsorted] at hsort
    obtain ⟨hamount, hpaid⟩ := hvalue best ((hmem best).mpr (Or.inl rfl))
    rw [← hamount] at hpaid hcovers
    have hsum : totalB = best.amountB := by simpa using htotal
    refine ⟨⟨List.singleton_subperm_iff.mpr hown, hmax, by simpa using hcovers, by simpa using hamount⟩,
      by simpa using hpaid, htotal, hfloor, fun quote hquote hcovers => ⟨rfl, ?_⟩⟩
    obtain ⟨c, hc, hcandidate⟩ :=
      exists_of_mapM hfound quote (List.mem_filter.mpr ⟨hquote, hcovers⟩)
    refine ⟨c.amountB, ?_, candidateOf_quote hcandidate ▸ (hvalue c hc).2⟩
    rw [hsum]
    rcases (hmem c).mp hc with rfl | hc
    · exact le_refl _
    · exact descending_le ((List.pairwise_cons.mp hsort).1 c hc)
  | loop ordered filled remainder huncovered hpriced hfilled h =>
    split at h
    · cases h
    · rename_i hdone
      obtain ⟨rfl, htotal, hfloor⟩ := selectFills_selected h
      have hend := fillQuotes_filled (Filled.start hpos.le (by omega)) hfilled
      have hsum := hend.sum
      rw [le_antisymm (Int.not_lt.mp hdone) hend.nonneg, add_zero] at hsum
      refine ⟨⟨?_, by simpa using hend.capped, fun part hpart => ?_, ?_⟩,
        fun fill hfill => evaluate_ok_iff.mp (hend.paid fill hfill), htotal, hfloor,
        fun quote hquote hcovers => ?_⟩
      · rw [List.map_map]
        exact hend.own.subperm.trans (sort_quotes hpriced).subperm
      · obtain ⟨fill, hfill, rfl⟩ := List.mem_map.mp hpart
        exact covers_of_evaluate (hend.paid fill hfill)
      · rw [List.map_map]
        exact hsum
      · rw [huncovered quote hquote] at hcovers
        cases hcovers

/-- Whatever is selected sells the exact amount, in parts that are the quotes' own and at their
prices, and for no less than the floor or than any quote that covers the amount pays. -/
theorem selectFillsV3_sound (input : SelectFillsV3Input) (fills : List SelectedFillV3)
    (totalB : Int) (rule : Text) (h : selectFillsV3 input = .ok (.selected fills totalB rule)) :
    Sells input fills totalB := by
  obtain ⟨⟨hpos, hmax, -⟩, hpath⟩ := selectFillsV3_path h
  exact hpath.sells hpos hmax

/-- Seven is sold in parts of five and two. -/
theorem selectFillsV3_sound_parts :
    Sells ⟨[sampleQuote "maker-a".toList 'a' [⟨1, 2⟩, ⟨5, 10⟩],
        sampleQuote "maker-b".toList 'b' [⟨1, 3⟩, ⟨5, 12⟩]], 7, 16, some 2⟩
      [⟨sampleQuote "maker-b".toList 'b' [⟨1, 3⟩, ⟨5, 12⟩], 5, 12⟩,
        ⟨sampleQuote "maker-a".toList 'a' [⟨1, 2⟩, ⟨5, 10⟩], 2, 4⟩] 16 :=
  selectFillsV3_sound _ _ _ selectionV3Rule (by decide +kernel)

/-! ## Insufficient depth -/

/-- The quotes that the cap lets the loop come to when it skips none. -/
def foremost (input : SelectFillsV3Input) : List SolverQuoteV3 :=
  match input.quotes.mapM priceOf with
  | .ok ordered =>
    ((sort priceOrder ordered).take (input.maxFills.getD 4).toNat).map (·.quote)
  | .error _ => []

theorem Splits.sum_le {parts : List (SolverQuoteV3 × Int)} (h : Splits input parts)
    (haccepted : ∀ quote ∈ input.quotes, Accepted quote.schedule) (hquotes : quotes ⊆ input.quotes)
    (hsub : (parts.map Prod.fst).Subperm quotes) :
    input.exactSellAmount ≤ (quotes.map depth).sum := by
  have hdepth : ∀ quote ∈ input.quotes, 0 ≤ depth quote ∧
      ∀ amountA, covers amountA quote = true → amountA ≤ depth quote := by
    intro quote hquote
    have hspec := haccepted quote hquote
    obtain ⟨⟨first, last⟩, hends⟩ := hspec.ends
    obtain ⟨⟨hfirst, hle, -⟩, -⟩ := ends_spec hspec hends
    rw [(ends_ok hends).2]
    refine ⟨by omega, fun amountA hcovers => ?_⟩
    unfold covers at hcovers
    rw [hends] at hcovers
    exact of_decide_eq_true (Bool.and_eq_true_iff.mp hcovers).2
  obtain ⟨l, hl, hsublist⟩ := hsub
  obtain ⟨others, hothers⟩ := hsublist.exists_perm_append
  have hperm := hothers.trans (hl.append_right others)
  have hnonneg : 0 ≤ (others.map depth).sum := by
    refine List.sum_nonneg fun n hn => ?_
    obtain ⟨quote, hquote, rfl⟩ := List.mem_map.mp hn
    exact (hdepth quote (hquotes (hperm.mem_iff.mpr (List.mem_append_right _ hquote)))).1
  have hparts : (parts.map Prod.snd).sum ≤ (parts.map fun part => depth part.1).sum := by
    refine List.sum_le_sum fun part hpart => ?_
    exact (hdepth _ (h.1.subset (List.mem_map_of_mem hpart))).2 _ (h.2.2.1 part hpart)
  rw [(hperm.map depth).sum_eq, List.map_append, List.sum_append, List.map_map]
  rw [h.2.2.2] at hparts
  exact le_trans hparts (le_add_of_nonneg_right hnonneg)

/-- The best price is for eight or nothing, and leaves two, which no other quote sells. -/
def strandedInput : SelectFillsV3Input where
  quotes := [sampleQuote "maker-a".toList 'a' [⟨8, 40⟩],
    sampleQuote "maker-b".toList 'b' [⟨5, 15⟩], sampleQuote "maker-see".toList 'c' [⟨5, 15⟩]]
  exactSellAmount := 10
  floorBuyAmount := 0
  maxFills := none

def strandedParts : List (SolverQuoteV3 × Int) :=
  (strandedInput.quotes.drop 1).map fun quote => (quote, 5)

end App20.Intents
