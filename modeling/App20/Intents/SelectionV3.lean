import App20.Domain.CompareText
import App20.Intents.QuoteV3

/-!
# Selection of quotes

`selectFillsV3`: one quote that covers the whole amount, or else quotes by their unit price until
the amount is filled.

* `selectFillsV3_perm`: the order in which quotes arrive does not matter.
-/

namespace App20.Intents

open App20.Lib App20.Domain

/-! ## Data -/

structure SelectedFillV3 where
  quote : SolverQuoteV3
  amountA : Int
  amountB : Int
  deriving DecidableEq

inductive SelectionRefusal where
  | insufficientDepth | belowFloor | noQuotes
  deriving DecidableEq

inductive SelectFillsV3Result where
  | selected (fills : List SelectedFillV3) (totalB : Int) (rule : Text)
  | refused (reason : SelectionRefusal)
  deriving DecidableEq

structure SelectFillsV3Input where
  quotes : List SolverQuoteV3
  exactSellAmount : Int
  floorBuyAmount : Int
  maxFills : Option Int

def selectionV3Rule : Text := "app20/rfq-selection/v3".toList

/-! ## Schedules -/

def evaluate (schedule : List PriceSchedulePoint) (amountA : Int) : Except String Int :=
  (evaluatePriceSchedule schedule amountA).mapError ScheduleError.message

def scheduleUnitPriceE18 (schedule : List PriceSchedulePoint) (amountA : Int) :
    Except String Int := do
  let amountB ← evaluate schedule amountA
  return (amountB * 10 ^ 18).tdiv amountA

def ends (schedule : List PriceSchedulePoint) :
    Except String (PriceSchedulePoint × PriceSchedulePoint) :=
  match schedule.head?, schedule.getLast? with
  | some first, some last => .ok (first, last)
  | _, _ => .error "Cannot read properties of undefined (reading 'a')"

def covers (exactSellAmount : Int) (quote : SolverQuoteV3) : Bool :=
  match ends quote.schedule with
  | .ok (first, last) => first.a ≤ exactSellAmount && exactSellAmount ≤ last.a
  | .error _ => false

/-! ## Orders -/

def quoteFallback : SolverQuoteV3 → SolverQuoteV3 → Ordering :=
  compareLex (byText fun quote => quote.lockId) (byText fun quote => quote.nonce)

def byIdentity : SolverQuoteV3 → SolverQuoteV3 → Ordering :=
  compareLex (byText fun quote => quote.solverId) quoteFallback

/-- The order of the quotes that cover the amount. -/
def singleOrder : SelectedFillV3 → SelectedFillV3 → Ordering :=
  compareLex (descending fun candidate => candidate.amountB)
    (compareLex (descending fun candidate => candidate.quote.quoteExpiresAt)
      fun left right => byIdentity left.quote right.quote)

structure PricedQuote where
  quote : SolverQuoteV3
  unitPriceE18 : Int

/-- The order in which the amount is filled. -/
def priceOrder : PricedQuote → PricedQuote → Ordering :=
  compareLex (descending fun priced => priced.unitPriceE18)
    fun left right => byIdentity left.quote right.quote

/-! ## Selection -/

def selectFills (fills : List SelectedFillV3) (floorBuyAmount : Int) : SelectFillsV3Result :=
  let totalB := fills.foldl (fun total fill => total + fill.amountB) 0
  if totalB < floorBuyAmount then .refused .belowFloor
  else .selected fills totalB selectionV3Rule

def candidateOf (exactSellAmount : Int) (quote : SolverQuoteV3) : Except String SelectedFillV3 := do
  let amountB ← evaluate quote.schedule exactSellAmount
  return ⟨quote, exactSellAmount, amountB⟩

def priceOf (quote : SolverQuoteV3) : Except String PricedQuote := do
  let (_, last) ← ends quote.schedule
  let unitPriceE18 ← scheduleUnitPriceE18 quote.schedule last.a
  return ⟨quote, unitPriceE18⟩

/-- The loop over the ordered quotes, which ends with the fills and what is left to fill. -/
def fillQuotes (maxFills : Int) :
    List PricedQuote → Int → List SelectedFillV3 → Except String (List SelectedFillV3 × Int)
  | [], remainder, fills => .ok (fills, remainder)
  | priced :: rest, remainder, fills =>
    if remainder = 0 ∨ maxFills ≤ fills.length then .ok (fills, remainder)
    else do
      let (first, last) ← ends priced.quote.schedule
      let amountA := if remainder < last.a then remainder else last.a
      if amountA < first.a then fillQuotes maxFills rest remainder fills
      else
        let amountB ← evaluate priced.quote.schedule amountA
        fillQuotes maxFills rest (remainder - amountA) (fills ++ [⟨priced.quote, amountA, amountB⟩])

/-- The part of `selectFillsV3` for an amount that no single quote covers. -/
def selectPartial (input : SelectFillsV3Input) (maxFills : Int) :
    Except String SelectFillsV3Result := do
  let ordered ← input.quotes.mapM priceOf
  let (fills, remainder) ← fillQuotes maxFills (sort priceOrder ordered) input.exactSellAmount []
  if 0 < remainder then return .refused .insufficientDepth
  else return selectFills fills input.floorBuyAmount

def assertSchedules : List SolverQuoteV3 → Except String Unit
  | [] => .ok ()
  | quote :: quotes => do
    (assertPriceSchedule quote.schedule).mapError ScheduleError.message
    assertSchedules quotes

def selectFillsV3 (input : SelectFillsV3Input) : Except String SelectFillsV3Result := do
  throwIf (input.exactSellAmount ≤ 0 ∨ maxU128 < input.exactSellAmount)
    "exactSellAmount must be a positive u128 value."
  throwIf (input.floorBuyAmount < 0) "floorBuyAmount must be a non-negative bigint."
  let maxFills := input.maxFills.getD 4
  throwIf (maxFills < 1 ∨ 4 < maxFills) "maxFills must be an integer in [1, 4]."
  if input.quotes.isEmpty then return .refused .noQuotes
  assertSchedules input.quotes
  let candidates ← (input.quotes.filter (covers input.exactSellAmount)).mapM
    (candidateOf input.exactSellAmount)
  match sort singleOrder candidates with
  | best :: _ => return selectFills [best] input.floorBuyAmount
  | [] => selectPartial input maxFills

/-! ## The order of arrival -/

instance : Std.TransCmp quoteFallback := inferInstanceAs (Std.TransCmp (compareLex _ _))

instance : Std.TransCmp byIdentity := inferInstanceAs (Std.TransCmp (compareLex _ _))

instance {α : Type} (f : α → SolverQuoteV3) :
    Std.TransCmp fun left right => byIdentity (f left) (f right) where
  eq_swap := fun {_ _} => @Std.OrientedCmp.eq_swap _ byIdentity _ _ _
  isLE_trans := fun {_ _ _} => @Std.TransCmp.isLE_trans _ byIdentity _ _ _ _

instance : Std.TransCmp singleOrder :=
  inferInstanceAs (Std.TransCmp (compareLex _ (compareLex _ _)))

instance : Std.TransCmp priceOrder := inferInstanceAs (Std.TransCmp (compareLex _ _))

/-- What tells quotes apart. -/
def identity (quote : SolverQuoteV3) : Text × Text × Text :=
  (quote.solverId, quote.lockId, quote.nonce)

theorem byIdentity_eq {left right : SolverQuoteV3} (h : byIdentity left right = .eq) :
    identity left = identity right := by
  obtain ⟨hsolver, hfallback⟩ := compareLex_eq h
  obtain ⟨hlock, hnonce⟩ := compareLex_eq hfallback
  have hsolverId : left.solverId = right.solverId := compareText_eq hsolver
  have hlockId : left.lockId = right.lockId := compareText_eq hlock
  have hnonces : left.nonce = right.nonce := compareText_eq hnonce
  unfold identity
  rw [hsolverId, hlockId, hnonces]

theorem candidateOf_quote {amount : Int} {quote : SolverQuoteV3} {candidate : SelectedFillV3}
    (h : candidateOf amount quote = .ok candidate) : candidate.quote = quote := by
  simp only [candidateOf, bind_ok, pure_ok] at h
  obtain ⟨_, -, rfl⟩ := h
  rfl

theorem priceOf_quote {quote : SolverQuoteV3} {priced : PricedQuote}
    (h : priceOf quote = .ok priced) : priced.quote = quote := by
  simp only [priceOf, bind_ok, pure_ok] at h
  obtain ⟨_, -, _, -, rfl⟩ := h
  rfl

variable {quotes : List SolverQuoteV3}

theorem tied_eq {α : Type} {f : SolverQuoteV3 → Except String α} {quoteOf : α → SolverQuoteV3}
    (hquote : ∀ {quote a}, f quote = .ok a → quoteOf a = quote)
    (hdistinct : (quotes.map identity).Nodup) {results : List α}
    (hresults : quotes.mapM f = .ok results) {a b : α} (ha : a ∈ results) (hb : b ∈ results)
    (h : byIdentity (quoteOf a) (quoteOf b) = .eq) : a = b := by
  obtain ⟨p, hp, hpa⟩ := mem_of_mapM hresults a ha
  obtain ⟨q, hq, hqb⟩ := mem_of_mapM hresults b hb
  rw [hquote hpa, hquote hqb] at h
  have hpq : p = q := List.inj_on_of_nodup_map hdistinct hp hq (byIdentity_eq h)
  rw [hpq, hqb] at hpa
  exact (Except.ok.inj hpa).symm

theorem assertSchedules_ok :
    assertSchedules quotes = .ok () ↔
      ∀ quote ∈ quotes, assertPriceSchedule quote.schedule = .ok () := by
  induction quotes with
  | nil => simp [assertSchedules]
  | cons quote quotes ih =>
    simp only [assertSchedules, bind_ok, List.forall_mem_cons, ih]
    cases assertPriceSchedule quote.schedule with
    | error | ok => simp [Except.mapError]

theorem selectPartial_perm {input : SelectFillsV3Input} {maxFills : Int}
    {result : SelectFillsV3Result} (hperm : input.quotes.Perm quotes)
    (hdistinct : (input.quotes.map identity).Nodup) (h : selectPartial input maxFills = .ok result) :
    selectPartial { input with quotes } maxFills = .ok result := by
  unfold selectPartial at h ⊢
  rw [bind_ok] at h ⊢
  obtain ⟨ordered, hordered, h⟩ := h
  obtain ⟨ordered', hordered', hsame⟩ := mapM_perm hperm hordered
  refine ⟨ordered', hordered', ?_⟩
  have hsort : sort priceOrder ordered = sort priceOrder ordered' := by
    apply sort_perm hsame
    intro a ha b hb htie
    exact tied_eq priceOf_quote hdistinct hordered ha hb (compareLex_eq htie).2
  rw [← hsort]
  exact h

theorem selectFillsV3_perm (input : SelectFillsV3Input) {result : SelectFillsV3Result}
    (hperm : input.quotes.Perm quotes) (hdistinct : (input.quotes.map identity).Nodup)
    (h : selectFillsV3 input = .ok result) : selectFillsV3 { input with quotes } = .ok result := by
  unfold selectFillsV3 at h ⊢
  dsimp only at h ⊢
  simp only [bind_ok] at h ⊢
  obtain ⟨u, hexact, v, hfloor, w, hfills, h⟩ := h
  refine ⟨u, hexact, v, hfloor, w, hfills, ?_⟩
  rw [← hperm.isEmpty_eq]
  split
  · rename_i hempty
    rw [if_pos hempty] at h
    exact h
  · rename_i hempty
    rw [if_neg hempty] at h
    simp only [bind_ok] at h ⊢
    obtain ⟨⟨⟩, hschedules, candidates, hcandidates, h⟩ := h
    obtain ⟨candidates', hcandidates', hsame⟩ := mapM_perm (hperm.filter _) hcandidates
    have hsort : sort singleOrder candidates = sort singleOrder candidates' := by
      have hkept := (List.filter_sublist (p := covers input.exactSellAmount)
        (l := input.quotes)).map identity
      apply sort_perm hsame
      intro a ha b hb htie
      have htied := (compareLex_eq (compareLex_eq htie).2).2
      exact tied_eq candidateOf_quote (hdistinct.sublist hkept) hcandidates ha hb htied
    refine ⟨(), ?_, candidates', hcandidates', ?_⟩
    · rw [assertSchedules_ok] at hschedules ⊢
      exact fun quote hquote => hschedules quote (hperm.mem_iff.mpr hquote)
    · rw [← hsort]
      split at h
      · exact h
      · exact selectPartial_perm hperm hdistinct h

end App20.Intents
