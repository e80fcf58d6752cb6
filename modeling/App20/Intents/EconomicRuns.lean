import App20.Intents.EconomicPolicy
import App20.Lib.Run

/-!
# Trades in an accounting window

The counters of one accounting window over any sequence of proposals, each of which is checked
against the counters as they are, and counted when it is allowed.

* `trades_within_limits`: each trade, maker and market stays within its limit, and after every trade
  its maker within its share of the market.
* `first_trade_refused`: the first maker would have all of the market, so that from empty counters
  nothing is allowed.
-/

namespace App20.Intents

open App20.Lib App20.Domain

/-! ## Counters -/

/-- What makers and the market have committed in the window, in base units of USDC. -/
structure Counters where
  maker : Text → Int
  market : Int

def Counters.empty : Counters := ⟨fun _ => 0, 0⟩

def setField (value : Json) (name : String) (x : Json) : Json :=
  match value with
  | .object fields => .object ((name, x) :: fields)
  | value => value

/-- The request with the counters of its maker and of the market written into its accounting. -/
def supply (c : Counters) (request : Json) : Json :=
  match request.get? "accounting" with
  | none => request
  | some accounting =>
    match accounting.get? "makerId" with
    | some (.string makerId) =>
      setField request "accounting"
        (setField (setField accounting "makerCommittedUsdcBaseUnits" (.bigint (c.maker makerId)))
          "marketCommittedUsdcBaseUnits" (.bigint c.market))
    | _ => request

def Counters.add (c : Counters) (makerId : Text) (value : Int) : Counters where
  maker id := if id = makerId then c.maker id + value else c.maker id
  market := c.market + value

def propose (c : Counters) (request : Json) : Counters :=
  if (evaluateRfqEconomicPolicy (supply c request)).allowed then
    match tradeOf (supply c request) with
    | some (makerId, value) => c.add makerId value
    | none => c
  else c

/-! ## What is checked -/

theorem get?_setField {value x v : Json} {name field : String}
    (h : (setField value name x).get? field = some v) :
    (field = name ∧ v = x) ∨ (field ≠ name ∧ value.get? field = some v) := by
  unfold setField at h
  split at h
  · rename_i fields
    simp only [Json.get?, List.lookup_cons] at h
    by_cases hfield : field = name
    · simp only [hfield, BEq.rfl] at h
      exact Or.inl ⟨hfield, (Option.some.inj h).symm⟩
    · simp only [beq_false_of_ne hfield] at h
      exact Or.inr ⟨hfield, h⟩
  · rename_i hnot
    cases value with
    | object fields => exact absurd rfl (hnot fields)
    | _ => cases h

theorem safeId_ok {value : Option Json} {s : Text} (h : safeId value = some s) :
    value = some (.string s) := by
  unfold safeId at h
  split at h
  · split at h
    · cases h
      rfl
    · cases h
  · cases h

theorem u256From_ok {least n : Int} {value : Option Json} (h : u256From least value = some n) :
    value = some (.bigint n) := by
  unfold u256From at h
  split at h
  · split at h
    · cases h
      rfl
    · cases h
  · cases h

theorem readAccounting_ok {json : Json} {decisionAt : Option Int} {accounting : Accounting}
    {now : Int} (h : readAccounting json decisionAt = some (accounting, now)) :
    json.get? "makerId" = some (.string accounting.makerId) ∧
      json.get? "makerCommittedUsdcBaseUnits" =
        some (.bigint accounting.makerCommittedUsdcBaseUnits) ∧
      json.get? "marketCommittedUsdcBaseUnits" =
        some (.bigint accounting.marketCommittedUsdcBaseUnits) := by
  simp only [readAccounting, Option.bind_eq_bind, Option.bind_eq_some_iff] at h
  obtain ⟨_, -, _, -, _, -, makerId, hmaker, _, -, _, -, _, -, makerCommitted, hmakerCommitted,
    marketCommitted, hmarketCommitted, _, -, _, -, hvalue⟩ := h
  cases hvalue
  exact ⟨safeId_ok hmaker, u256From_ok hmakerCommitted, u256From_ok hmarketCommitted⟩

theorem supply_accounting {c : Counters} {request json : Json} {decisionAt : Option Int}
    {accounting : Accounting} {now : Int} (hjson : (supply c request).get? "accounting" = some json)
    (h : readAccounting json decisionAt = some (accounting, now)) :
    accounting.makerCommittedUsdcBaseUnits = c.maker accounting.makerId ∧
      accounting.marketCommittedUsdcBaseUnits = c.market := by
  obtain ⟨hmaker, hmakerCommitted, hmarketCommitted⟩ := readAccounting_ok h
  unfold supply at hjson
  split at hjson
  · rename_i hnone
    rw [hnone] at hjson
    cases hjson
  · rename_i before hbefore
    split at hjson
    · rename_i makerId hmakerId
      rcases get?_setField hjson with ⟨-, rfl⟩ | ⟨hne, -⟩
      swap
      · exact absurd rfl hne
      have hid : accounting.makerId = makerId := by
        rcases get?_setField hmaker with ⟨hname, -⟩ | ⟨-, hmaker⟩
        · exact absurd hname (by decide)
        · rcases get?_setField hmaker with ⟨hname, -⟩ | ⟨-, hmaker⟩
          · exact absurd hname (by decide)
          · cases hmakerId.symm.trans hmaker
            rfl
      rw [hid]
      refine ⟨?_, ?_⟩
      · rcases get?_setField hmakerCommitted with ⟨hname, -⟩ | ⟨-, hmakerCommitted⟩
        · exact absurd hname (by decide)
        · rcases get?_setField hmakerCommitted with ⟨-, hvalue⟩ | ⟨hne, -⟩
          · exact Json.bigint.inj hvalue
          · exact absurd rfl hne
      · rcases get?_setField hmarketCommitted with ⟨-, hvalue⟩ | ⟨hne, -⟩
        · exact Json.bigint.inj hvalue
        · exact absurd rfl hne
    · -- without the text of a maker the accounting is malformed
      rename_i hother
      cases hbefore.symm.trans hjson
      exact absurd hmaker (hother _)

/-! ## Limits -/

structure Counters.Within (c : Counters) : Prop where
  perMaker : ∀ makerId, c.maker makerId ≤ perMakerDailyCap
  perMarket : c.market ≤ perMarketDailyCap

/-- The trade of an allowed proposal: it is within its limit, and its maker within its share. -/
structure Traded (c c' : Counters) (makerId : Text) (value : Int) : Prop where
  added : c' = c.add makerId value
  perTrade : value ≤ perTradeCap
  concentration : c'.maker makerId * bpsScale ≤ c'.market * singleMakerConcentrationBps

/-- An allowed proposal is counted, and keeps the limits. -/
theorem propose_allowed {c : Counters} {request : Json}
    (h : (evaluateRfqEconomicPolicy (supply c request)).allowed = true) :
    ∃ makerId value, tradeOf (supply c request) = some (makerId, value) ∧
      Traded c (propose c request) makerId value ∧
      (propose c request).maker makerId ≤ perMakerDailyCap ∧
      (propose c request).market ≤ perMarketDailyCap := by
  obtain ⟨accounting, makerId, value, hallowed⟩ := evaluate_allowed h
  obtain ⟨json, now, decisionAt, hjson, hread⟩ := hallowed.window
  obtain ⟨hmaker, hmarket⟩ := supply_accounting hjson hread
  rw [hallowed.maker] at hmaker
  have hadded : propose c request = c.add makerId value := by
    unfold propose
    rw [if_pos h, hallowed.trade]
  have hself : (c.add makerId value).maker makerId = c.maker makerId + value := if_pos rfl
  have hperMaker := hallowed.perMaker
  have hperMarket := hallowed.perMarket
  have hshare := hallowed.concentration
  rw [hmaker] at hperMaker hshare
  rw [hmarket] at hperMarket hshare
  refine ⟨makerId, value, hallowed.trade, ⟨hadded, hallowed.perTrade, ?_⟩, ?_, ?_⟩
  · rw [hadded, hself]
    exact hshare
  · rw [hadded, hself]
    exact hperMaker
  · rw [hadded]
    exact hperMarket

theorem Counters.Within.propose {c : Counters} (hc : c.Within) (request : Json) :
    (propose c request).Within := by
  by_cases h : (evaluateRfqEconomicPolicy (supply c request)).allowed = true
  · obtain ⟨makerId, value, -, htraded, hperMaker, hperMarket⟩ := propose_allowed h
    refine ⟨fun id => ?_, hperMarket⟩
    by_cases hid : id = makerId
    · rw [hid]
      exact hperMaker
    · rw [htraded.added, Counters.add]
      dsimp only
      rw [if_neg hid]
      exact hc.perMaker id
  · unfold Intents.propose
    rw [if_neg h]
    exact hc

theorem first_trade_refused (request : Json) :
    (evaluateRfqEconomicPolicy (supply Counters.empty request)).allowed = false := by
  by_contra hallowed
  obtain ⟨accounting, makerId, value, h⟩ := evaluate_allowed (Bool.not_eq_false _ ▸ hallowed)
  obtain ⟨json, now, decisionAt, hjson, hread⟩ := h.window
  obtain ⟨hmaker, hmarket⟩ := supply_accounting hjson hread
  have hshare := h.concentration
  have hvalue := h.positive
  rw [hmaker, hmarket] at hshare
  have hempty : (0 + value) * 10000 ≤ (0 + value) * 6000 := hshare
  omega

/-- Over any sequence of proposals, from counters within the limits such as the empty ones, the
counters stay within the limits, and each proposal that is allowed is a trade within its own limit
that leaves its maker within the share of the market. -/
theorem trades_within_limits (c : Counters) (hc : c.Within) (requests : List Json) :
    (run propose c requests).Within ∧ ∀ request,
        (evaluateRfqEconomicPolicy (supply (run propose c requests) request)).allowed = true →
        ∃ makerId value, tradeOf (supply (run propose c requests) request) = some (makerId, value) ∧
          Traded (run propose c requests) (propose (run propose c requests) request) makerId
            value := by
  refine ⟨run_invariant (I := Counters.Within) (fun c request h => h.propose request) requests hc,
    fun request h => ?_⟩
  obtain ⟨makerId, value, htrade, htraded, -⟩ := propose_allowed h
  exact ⟨makerId, value, htrade, htraded⟩

/-! ## A run with trades -/

/-- The counters of the makers `a` and `b`. -/
def twoMakers : Counters where
  maker id := if id = "maker-a".toList ∨ id = "maker-b".toList then 5000 * usdcBaseUnits else 0
  market := 10000 * usdcBaseUnits

/-- A quote of the maker `a` with the largest spread and time to live. -/
def largestQuote : Json :=
  .object [
    ("action", .string "quote".toList), ("network", .string "localnet".toList),
    ("decisionAt", .number 2000000000),
    ("market", .object [
      ("marketId", .string reviewedMarketId), ("state", .string "active".toList)]),
    ("reference", .object [
      ("available", .bool true), ("marketId", .string reviewedMarketId),
      ("observedAt", .number 1999999700),
      ("sellTokenId", .string strkId), ("sellTokenDecimals", .number 18),
      ("buyTokenId", .string usdcId), ("buyTokenDecimals", .number 6),
      ("grossSellAmountBaseUnits", .bigint 100000000000000000000),
      ("grossBuyAmountBaseUnits", .bigint 1000000000)]),
    ("proposal", .object [
      ("marketId", .string reviewedMarketId), ("makerId", .string "maker-a".toList),
      ("sellTokenId", .string strkId), ("sellTokenDecimals", .number 18),
      ("buyTokenId", .string usdcId), ("buyTokenDecimals", .number 6),
      ("requestedSellAmountBaseUnits", .bigint 100000000000000000000),
      ("offeredSellAmountBaseUnits", .bigint 100000000000000000000),
      ("offeredBuyAmountBaseUnits", .bigint 995000000),
      ("usdcEquivalentBaseUnits", .bigint 1000000000),
      ("makerSpreadBps", .number 50), ("app20FeeBps", .number 0),
      ("quoteTtlSeconds", .number 90)]),
    ("accounting", .object [
      ("windowId", .string "risk-day-2026-01-01".toList), ("marketId", .string reviewedMarketId),
      ("makerId", .string "maker-a".toList), ("startsAt", .number 1999996400),
      ("endsAt", .number 2000082800), ("observedAt", .number 2000000000)])]

/-- The quote is taken once, and again while the maker keeps within its share. -/
theorem trades_within_limits_largest :
    (run propose twoMakers [largestQuote]).market = 11000 * usdcBaseUnits ∧
      (run propose twoMakers [largestQuote]).Within ∧ (evaluateRfqEconomicPolicy
        (supply (run propose twoMakers [largestQuote]) largestQuote)).allowed = true := by
  have hwithin : twoMakers.Within := by
    refine ⟨fun id => ?_, by decide⟩
    unfold twoMakers
    dsimp only
    split
    · decide
    · decide
  exact ⟨by decide +kernel, (trades_within_limits twoMakers hwithin [largestQuote]).1,
    by decide +kernel⟩

end App20.Intents
