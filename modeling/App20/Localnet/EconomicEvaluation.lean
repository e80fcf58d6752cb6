import App20.Intents.EconomicRuns
import App20.Intents.PriceSchedule
import App20.Localnet.Ledger

/-!
# Evaluation of localnet RFQs

The input of the economic policy as the localnet adapter builds it: the reference price, the spread and
the value in USDC are derived from the amounts, and the accounting is the snapshot of the decision time.

* `evaluate_allowed`: an allowed evaluation has a maker, a decision time and a derived value, and the
  snapshot of that time leaves room for the value.
-/

namespace App20.Localnet

open App20.Lib App20.Domain
open App20.Reservation (isObject maxSafeInteger)
open App20.Intents (PolicyDecision PriceSchedulePoint isText isBool strkId usdcId usdcBaseUnits
  dailyWindowSeconds perMakerDailyCap perMarketDailyCap bpsScale isRecoveryAction setField
  evaluateRfqEconomicPolicy safeTimestamp)

/-! ## Derived values -/

def strkScale : Int := 10 ^ 18
def usdcScale : Int := 10 ^ 6
def localnetUsdcPerStrk : Int := 2
def app20FeeBps : Int := 0
def reviewedBuyTokenDecimals : Int := 6

def decimalsForLocalnetToken (tokenId : Option Json) : Option Int :=
  if isText tokenId strkId then some 18
  else if isText tokenId usdcId then some reviewedBuyTokenDecimals
  else none

/-- A direction of the reviewed pair: whether it sells STRK. -/
def reviewedDirection (sellTokenId buyTokenId : Option Json) : Option Bool :=
  if isText sellTokenId strkId ∧ isText buyTokenId usdcId then some true
  else if isText sellTokenId usdcId ∧ isText buyTokenId strkId then some false
  else none

def reviewedMarketId (sellTokenId buyTokenId : Option Json) : Text :=
  if (reviewedDirection sellTokenId buyTokenId).isSome then Intents.reviewedMarketId
  else
    match sellTokenId, buyTokenId with
    | some (.string sellTokenId), some (.string buyTokenId) => sellTokenId ++ '_' :: buyTokenId
    | _, _ => Intents.reviewedMarketId

def positiveBigint : Option Json → Option Int
  | some (.bigint n) => if 0 < n then some n else none
  | _ => none

/-- Without a reference price that of the fixture is taken. -/
def deriveLocalnetReferenceBuyAmount
    (sellTokenId buyTokenId sellAmountBaseUnits referenceMidE18 : Option Json) : Option Int := do
  let sellAmount ← positiveBigint sellAmountBaseUnits
  let referenceMid ←
    positiveBigint (some (referenceMidE18.getD (.bigint (localnetUsdcPerStrk * 10 ^ 18))))
  let sellsStrk ← reviewedDirection sellTokenId buyTokenId
  let buy := if sellsStrk then (sellAmount * referenceMid * usdcScale) / (strkScale * 10 ^ 18)
    else (sellAmount * strkScale * 10 ^ 18) / (referenceMid * usdcScale)
  if 0 < buy then some buy else none

def deriveMakerSpreadBps (referenceBuy offeredBuy : Option Json) : Option Int := do
  let referenceBuy ← positiveBigint referenceBuy
  let offeredBuy ← positiveBigint offeredBuy
  let spreadNumerator := if offeredBuy < referenceBuy then referenceBuy - offeredBuy else 0
  some (spreadNumerator * bpsScale / referenceBuy)

def deriveUsdcEquivalentBaseUnits (referenceBuy : Option Json) (buyTokenDecimals : Int) :
    Option Int := do
  let referenceBuy ← positiveBigint referenceBuy
  if buyTokenDecimals < 0 ∨ 255 < buyTokenDecimals then none
  else
    let quoteTokenScale := 10 ^ buyTokenDecimals.toNat
    let usdcNumerator := referenceBuy * usdcBaseUnits
    if usdcNumerator % quoteTokenScale ≠ 0 then none
    else
      let derived := usdcNumerator / quoteTokenScale
      if 0 < derived then some derived else none

/-! ## The input of the policy -/

structure PolicyInput where
  policyInput : Json
  derivedMakerSpreadBps : Option Int
  derivedUsdcEquivalentBaseUnits : Option Int
  referenceGrossBuyAmountBaseUnits : Option Int

/-- `x ?? y` -/
def orElse (x y : Option Json) : Option Json :=
  match x with
  | none | some .null => y
  | some x => some x

/-- The reference price, as far as there is one. -/
def referenceJson (input : Json) (marketId : Text) (referenceBuy : Option Int) : Json :=
  match referenceBuy with
  | none => .object [("available", .bool false)]
  | some referenceBuy =>
    if isBool (input.get? "referenceAvailable") false then .object [("available", .bool false)]
    else
      .object ([("available", .bool true), ("marketId", .string marketId),
        ("grossBuyAmountBaseUnits", .bigint referenceBuy)] ++
        (Json.optional "observedAt" (input.get? "referenceObservedAt") ++
        (Json.optional "sellTokenId" (input.get? "sellTokenId") ++
        (Json.optional "sellTokenDecimals"
          ((decimalsForLocalnetToken (input.get? "sellTokenId")).map .number) ++
        (Json.optional "buyTokenId" (input.get? "buyTokenId") ++
        (Json.optional "buyTokenDecimals"
          ((decimalsForLocalnetToken (input.get? "buyTokenId")).map .number) ++
        Json.optional "grossSellAmountBaseUnits"
          (input.get? "requestedSellAmountBaseUnits")))))))

def proposalJson (input : Json) (marketId : Text) (derivedSpread derivedUsdc : Option Int) : Json :=
  .object ([("marketId", .string marketId), ("app20FeeBps", .number app20FeeBps)] ++
    (Json.optional "usdcEquivalentBaseUnits" (derivedUsdc.map .bigint) ++
    (Json.optional "makerSpreadBps" (derivedSpread.map .number) ++
    (Json.optional "makerId" (input.get? "makerId") ++
    (Json.optional "sellTokenId" (input.get? "sellTokenId") ++
    (Json.optional "sellTokenDecimals"
      ((decimalsForLocalnetToken (input.get? "sellTokenId")).map .number) ++
    (Json.optional "buyTokenId" (input.get? "buyTokenId") ++
    (Json.optional "buyTokenDecimals"
      ((decimalsForLocalnetToken (input.get? "buyTokenId")).map .number) ++
    (Json.optional "requestedSellAmountBaseUnits" (input.get? "requestedSellAmountBaseUnits") ++
    (Json.optional "offeredSellAmountBaseUnits"
      (orElse (input.get? "offeredSellAmountBaseUnits")
        (input.get? "requestedSellAmountBaseUnits")) ++
    (Json.optional "offeredBuyAmountBaseUnits" (input.get? "offeredBuyAmountBaseUnits") ++
    Json.optional "quoteTtlSeconds" (input.get? "quoteTtlSeconds"))))))))))))

def buildLocalnetRfqEconomicPolicyInput (input : Json) (suspended : Bool)
    (accounting : Option Json) : PolicyInput :=
  if isObject input = false then ⟨input, none, none, none⟩
  else if isRecoveryAction (input.get? "action") then
    ⟨.object (("network", .string "localnet".toList) ::
      (Json.optional "action" (input.get? "action") ++
      Json.optional "decisionAt" (input.get? "decisionAt"))), none, none, none⟩
  else
    let sellTokenId := input.get? "sellTokenId"
    let buyTokenId := input.get? "buyTokenId"
    let marketId := reviewedMarketId sellTokenId buyTokenId
    let referenceBuy := deriveLocalnetReferenceBuyAmount sellTokenId buyTokenId
      (input.get? "requestedSellAmountBaseUnits") (input.get? "referenceMidE18")
    let spread := deriveMakerSpreadBps (referenceBuy.map .bigint)
      (input.get? "offeredBuyAmountBaseUnits")
    let sellsUsdc := isText sellTokenId usdcId
    let usdcReferenceAmount := if sellsUsdc then input.get? "requestedSellAmountBaseUnits"
      else referenceBuy.map .bigint
    let usdcReferenceDecimals := if sellsUsdc then decimalsForLocalnetToken sellTokenId
      else decimalsForLocalnetToken buyTokenId
    let usdc := deriveUsdcEquivalentBaseUnits usdcReferenceAmount
      (usdcReferenceDecimals.getD reviewedBuyTokenDecimals)
    ⟨.object ([("network", .string "localnet".toList),
      ("market", .object [("marketId", .string marketId),
        ("state", .string (if suspended then "suspended" else "active").toList)]),
      ("reference", referenceJson input marketId referenceBuy),
      ("proposal", proposalJson input marketId spread usdc)] ++
      (Json.optional "action" (input.get? "action") ++
      (Json.optional "decisionAt" (input.get? "decisionAt") ++
      Json.optional "accounting" accounting))), spread, usdc, referenceBuy⟩

/-! ## Evaluation -/

def AccountingSnapshot.json (a : AccountingSnapshot) : Json :=
  .object ([("windowId", .string a.window.windowId), ("marketId", .string a.marketId),
    ("startsAt", .number a.window.startsAt), ("endsAt", .number a.window.endsAt),
    ("observedAt", .number a.observedAt),
    ("makerCommittedUsdcBaseUnits", .bigint a.makerCommittedUsdcBaseUnits),
    ("marketCommittedUsdcBaseUnits", .bigint a.marketCommittedUsdcBaseUnits)] ++
    Json.optional "makerId" a.makerId)

structure EvaluatedDecision where
  decision : PolicyDecision
  derivedMakerSpreadBps : Option Int
  derivedUsdcEquivalentBaseUnits : Option Int
  referenceGrossBuyAmountBaseUnits : Option Int

namespace Economics

/-- The snapshot of what is given as a decision time. A time that is no whole number is refused by
the policy whatever its window holds; the bounds are then left as numbers that are no integers. -/
def accountingOf (e : Economics) (decisionAt makerId : Option Json) (marketId : Text) :
    Except String Json := do
  throwIf (e.failed = true) failStopped
  match decisionAt with
  | some (.number t) => return (← e.snapshotAccounting t makerId marketId).json
  | some (.bigint _) => .error "Cannot mix BigInt and other types, use explicit conversions"
  | _ =>
    return .object ([("marketId", .string marketId), ("startsAt", .fraction), ("endsAt", .fraction),
      ("observedAt", .fraction), ("makerCommittedUsdcBaseUnits", .bigint e.options.makerSeed),
      ("marketCommittedUsdcBaseUnits", .bigint e.options.marketSeed)] ++
      Json.optional "makerId" makerId)

/-- A stale reference suspends the market until the process starts again. -/
def evaluateBuilt (e : Economics) (built : PolicyInput) : EvaluatedDecision × Economics :=
  let decision := evaluateRfqEconomicPolicy built.policyInput
  (⟨decision, built.derivedMakerSpreadBps, built.derivedUsdcEquivalentBaseUnits,
    built.referenceGrossBuyAmountBaseUnits⟩,
    if decision.reasons.any (·.code = .referenceSuspensionRequired) then
      { e with suspended := true }
    else e)

def evaluate (e : Economics) (input : Json) : Except String EvaluatedDecision × Economics :=
  if isObject input = false then
    (.ok ⟨evaluateRfqEconomicPolicy input, none, none, none⟩, e)
  else if isRecoveryAction (input.get? "action") then
    let (decision, e) := e.evaluateBuilt (buildLocalnetRfqEconomicPolicyInput input e.suspended none)
    (.ok decision, e)
  else
    match e.accountingOf (input.get? "decisionAt") (input.get? "makerId")
      (reviewedMarketId (input.get? "sellTokenId") (input.get? "buyTokenId")) with
    | .error reason => (.error reason, e)
    | .ok accounting =>
      let (decision, e) :=
        e.evaluateBuilt (buildLocalnetRfqEconomicPolicyInput input e.suspended (some accounting))
      (.ok decision, e)

def readSchedule : Option Json → Option (List PriceSchedulePoint)
  | some (.array points) => points.mapM fun point =>
    match point.get? "a", point.get? "b" with
    | some (.bigint a), some (.bigint b) => some ⟨a, b⟩
    | _, _ => none
  | _ => none

def scheduledInput (input : Json) : Option Json := do
  let schedule ← readSchedule (input.get? "schedule")
  let last ← schedule.getLast?
  let buyAmount ← (Intents.evaluatePriceSchedule schedule last.a).toOption
  some (setField (setField (setField input "requestedSellAmountBaseUnits" (.bigint last.a))
    "offeredSellAmountBaseUnits" (.bigint last.a)) "offeredBuyAmountBaseUnits" (.bigint buyAmount))

def evaluateSchedule (e : Economics) (input : Json) : Except String EvaluatedDecision × Economics :=
  if isObject input = false then e.evaluate input
  else
    match scheduledInput input with
    | none => e.evaluate .null
    | some scheduled =>
      match e.evaluate scheduled with
      | (.ok decision, next) => (.ok decision, next)
      | (.error _, _) => e.evaluate .null

end Economics

/-! ## What is allowed -/

theorem priceReasons_usdcEquivalent {proposal : Intents.EconomicProposal}
    {reference : Intents.Reference} (h : Intents.priceReasons proposal reference = []) :
    Intents.derivedUsdc reference = some proposal.usdcEquivalentBaseUnits := by
  have hscale := Intents.usdcLeg_scale_pos reference
  unfold Intents.priceReasons at h
  unfold Intents.derivedUsdc
  dsimp only at h ⊢
  obtain ⟨-, h⟩ := List.append_eq_nil_iff.mp h
  split at h
  · rename_i hexact
    obtain ⟨h, -⟩ := List.append_eq_nil_iff.mp h
    have hequal := not_not.mp (Intents.refuseIf_eq_nil.mp h)
    rw [if_pos hexact, ← hequal, Int.mul_ediv_cancel _ (Int.ne_of_gt hscale)]
  · cases h

variable {input : Json} {e : Economics} {decision : EvaluatedDecision}

theorem allowed_usdcEquivalent (h : (evaluateRfqEconomicPolicy input).allowed = true) :
    ∃ json makerId value, input.get? "proposal" = some json ∧
      json.get? "usdcEquivalentBaseUnits" = some (.bigint value) ∧
      Intents.tradeOf input = some (makerId, value) := by
  have hreasons := Intents.allowed_assess h
  unfold Intents.assess at hreasons
  dsimp only at hreasons
  simp only [List.append_eq_nil_iff] at hreasons
  obtain ⟨⟨⟨-, hreference⟩, hproposal⟩, -⟩ := hreasons
  obtain ⟨reference, hreference⟩ := Intents.assessReference_nil hreference
  rw [hreference] at hproposal
  obtain ⟨proposal, hproposal', hprice⟩ := Intents.assessProposal_nil hproposal
  have hvalue := priceReasons_usdcEquivalent hprice
  have hread : ∃ json, input.get? "proposal" = some json ∧
      Intents.readProposal json = some proposal := by
    have hfirst := hproposal'
    unfold Intents.assessProposal at hfirst
    split at hfirst
    · cases hfirst
    · rename_i json hjson
      split at hfirst
      · cases hfirst
      · rename_i hread
        cases hfirst
        exact ⟨json, Intents.present_eq_some hjson, hread⟩
  obtain ⟨json, hjson, hread⟩ := hread
  refine ⟨json, proposal.makerId, proposal.usdcEquivalentBaseUnits, hjson, ?_, ?_⟩
  · unfold Intents.readProposal at hread
    iterate 10 obtain ⟨_, -, hread⟩ := Option.bind_eq_some_iff.mp hread
    obtain ⟨usdc, husdc, hread⟩ := Option.bind_eq_some_iff.mp hread
    iterate 3 obtain ⟨_, -, hread⟩ := Option.bind_eq_some_iff.mp hread
    cases hread
    exact Intents.u256From_ok husdc
  · unfold Intents.tradeOf Intents.assess
    dsimp only
    rw [hreference, hproposal', Option.bind_some, Option.bind_some, hvalue]

theorem get?_proposalJson (input : Json) (marketId : Text) (spread usdc : Option Int) :
    (proposalJson input marketId spread usdc).get? "usdcEquivalentBaseUnits" = usdc.map .bigint := by
  simp [proposalJson, Json.get?, List.lookup_cons, Json.lookup_optional_append,
    Json.lookup_optional]

theorem get?_policyInput {accounting : Json} {suspended : Bool} (hobject : isObject input = true)
    (hrecovery : isRecoveryAction (input.get? "action") = false) :
    (buildLocalnetRfqEconomicPolicyInput input suspended (some accounting)).policyInput.get?
        "accounting" = some accounting ∧
      ∃ json, (buildLocalnetRfqEconomicPolicyInput input suspended
          (some accounting)).policyInput.get? "proposal" = some json ∧
        json.get? "usdcEquivalentBaseUnits" = (buildLocalnetRfqEconomicPolicyInput input suspended
          (some accounting)).derivedUsdcEquivalentBaseUnits.map .bigint := by
  unfold buildLocalnetRfqEconomicPolicyInput
  rw [if_neg (by rw [hobject]; decide), if_neg (by rw [hrecovery]; decide)]
  dsimp only
  refine ⟨?_, _, rfl, ?_⟩
  · simp only [Json.get?, List.cons_append, List.nil_append, List.lookup_cons,
      Json.lookup_optional_append, Json.lookup_optional]
    rfl
  · exact get?_proposalJson _ _ _ _

theorem readAccounting_startsAt {json : Json} {decisionAt : Option Int}
    {accounting : Intents.Accounting} {now : Int}
    (h : Intents.readAccounting json decisionAt = some (accounting, now)) :
    ∃ n, json.get? "startsAt" = some (.number n) := by
  simp only [Intents.readAccounting, Option.bind_eq_bind, Option.bind_eq_some_iff] at h
  obtain ⟨_, -, _, -, _, -, _, -, startsAt, hstartsAt, -⟩ := h
  unfold safeTimestamp Intents.safeFrom at hstartsAt
  split at hstartsAt
  · rename_i n heq
    exact ⟨n, heq⟩
  · cases hstartsAt

theorem accountingOf_read {decisionAt makerId : Option Json} {marketId : Text} {json : Json}
    {time : Option Int} {accounting : Intents.Accounting} {now : Int}
    (h : e.accountingOf decisionAt makerId marketId = .ok json)
    (hread : Intents.readAccounting json time = some (accounting, now)) :
    ∃ t snapshot, decisionAt = some (.number t) ∧ makerId = some (.string accounting.makerId) ∧
      e.snapshotAccounting t (some (.string accounting.makerId)) marketId = .ok snapshot ∧
      snapshot.makerCommittedUsdcBaseUnits = accounting.makerCommittedUsdcBaseUnits ∧
      snapshot.marketCommittedUsdcBaseUnits = accounting.marketCommittedUsdcBaseUnits := by
  obtain ⟨hmaker, hmakerCommitted, hmarketCommitted⟩ := Intents.readAccounting_ok hread
  obtain ⟨n, hstartsAt⟩ := readAccounting_startsAt hread
  unfold Economics.accountingOf at h
  rw [bind_ok] at h
  obtain ⟨_, hopen, h⟩ := h
  split at h
  · rename_i t
    rw [bind_ok] at h
    obtain ⟨snapshot, hsnapshot, h⟩ := h
    cases h
    simp only [AccountingSnapshot.json, Json.get?, List.cons_append, List.nil_append,
      List.lookup_cons, Json.lookup_optional] at hmaker hmakerCommitted hmarketCommitted
    have hid : makerId = some (.string accounting.makerId) := by
      simp only [Economics.snapshotAccounting, bind_ok, pure_ok] at hsnapshot
      obtain ⟨-, -, rfl⟩ := hsnapshot
      simpa using hmaker
    subst hid
    refine ⟨t, snapshot, rfl, rfl, hsnapshot, ?_, ?_⟩
    · simpa using hmakerCommitted
    · simpa using hmarketCommitted
  · cases h
  · cases h
    simp [Json.get?, List.lookup_cons] at hstartsAt

/-- An evaluation leaves the instance as it was, or suspends its market. -/
theorem evaluate_state (e : Economics) (input : Json) :
    (e.evaluate input).2 = e ∨ (e.evaluate input).2 = { e with suspended := true } := by
  have hbuilt (built : PolicyInput) : (e.evaluateBuilt built).2 = e ∨
      (e.evaluateBuilt built).2 = { e with suspended := true } := by
    unfold Economics.evaluateBuilt
    dsimp only
    split
    · exact .inr rfl
    · exact .inl rfl
  unfold Economics.evaluate
  split
  · exact .inl rfl
  · split
    · exact hbuilt _
    · split
      · exact .inl rfl
      · exact hbuilt _

theorem evaluateSchedule_state (e : Economics) (input : Json) :
    (e.evaluateSchedule input).2 = e ∨ (e.evaluateSchedule input).2 = { e with suspended := true } := by
  unfold Economics.evaluateSchedule
  split
  · exact evaluate_state e input
  · split
    · exact evaluate_state e .null
    · rename_i scheduled _
      have hstate := evaluate_state e scheduled
      split
      · rename_i heq
        rw [heq] at hstate
        exact hstate
      · exact evaluate_state e .null

/-- What is known of an evaluation that is allowed: the maker, the time and the value that are to be
committed, and that the snapshot of the time leaves room for the value. -/
structure Permitted (e : Economics) (input : Json) (decision : EvaluatedDecision) (makerId : Text)
    (value t : Int) : Prop where
  maker : input.get? "makerId" = some (.string makerId)
  derived : decision.derivedUsdcEquivalentBaseUnits = some value
  time : input.get? "decisionAt" = some (.number t)
  positive : 0 < value
  room : ∃ marketId snapshot, e.snapshotAccounting t (some (.string makerId)) marketId = .ok snapshot ∧
    snapshot.makerCommittedUsdcBaseUnits + value ≤ perMakerDailyCap ∧
    snapshot.marketCommittedUsdcBaseUnits + value ≤ perMarketDailyCap

theorem get?_of_not_isObject (h : isObject input = false) (field : String) :
    input.get? field = none := by
  cases input with
  | object fields => cases h
  | _ => rfl

theorem evaluate_allowed (h : (e.evaluate input).1 = .ok decision)
    (hallowed : decision.decision.allowed = true) :
    ∃ makerId value t, Permitted e input decision makerId value t := by
  unfold Economics.evaluate at h
  split at h
  · -- what is no object has no accounting
    rename_i hobject
    cases h
    obtain ⟨_, _, _, hpolicy⟩ := Intents.evaluate_allowed hallowed
    obtain ⟨_, _, _, hjson, -⟩ := hpolicy.window
    rw [get?_of_not_isObject hobject] at hjson
    cases hjson
  rename_i hobject
  have hobject := Bool.not_eq_false _ ▸ hobject
  split at h
  · -- a recovery is never allowed
    rename_i hrecovery
    cases h
    obtain ⟨_, _, _, hpolicy⟩ := Intents.evaluate_allowed hallowed
    obtain ⟨_, _, _, hjson, -⟩ := hpolicy.window
    unfold buildLocalnetRfqEconomicPolicyInput at hjson
    rw [if_neg (by rw [hobject]; decide), if_pos hrecovery] at hjson
    simp [Json.get?, List.lookup_cons, Json.lookup_optional_append, Json.lookup_optional] at hjson
  rename_i hrecovery
  have hrecovery := Bool.eq_false_iff.mpr hrecovery
  split at h
  · cases h
  rename_i accounting haccounting
  cases h
  obtain ⟨read, makerId, value, hpolicy⟩ := Intents.evaluate_allowed hallowed
  obtain ⟨json, now, decisionAt, hjson, hread⟩ := hpolicy.window
  obtain ⟨hget, proposal, hproposal, husdc⟩ := get?_policyInput hobject hrecovery
  cases hget.symm.trans hjson
  obtain ⟨t, snapshot, htime, hmaker, hsnapshot, hmakerCommitted, hmarketCommitted⟩ :=
    accountingOf_read haccounting hread
  obtain ⟨_, _, claimed, hproposal', hclaimed, htrade⟩ := allowed_usdcEquivalent hallowed
  cases hproposal.symm.trans hproposal'
  cases hpolicy.trade.symm.trans htrade
  rw [hpolicy.maker] at hmaker hsnapshot
  refine ⟨makerId, value, t, hmaker, ?_, htime, hpolicy.positive, _, snapshot, hsnapshot, ?_, ?_⟩
  · obtain ⟨derived, hderived, hvalue⟩ := Option.map_eq_some_iff.mp (husdc.symm.trans hclaimed)
    cases hvalue
    exact hderived
  · rw [hmakerCommitted]
    exact hpolicy.perMaker
  · rw [hmarketCommitted]
    exact hpolicy.perMarket

theorem get?_scheduledInput {scheduled : Json} (h : Economics.scheduledInput input = some scheduled)
    {field : String} (hsell : field ≠ "requestedSellAmountBaseUnits")
    (hoffered : field ≠ "offeredSellAmountBaseUnits") (hbuy : field ≠ "offeredBuyAmountBaseUnits")
    {x : Json} (hx : scheduled.get? field = some x) : input.get? field = some x := by
  simp only [Economics.scheduledInput, Option.bind_eq_bind, Option.bind_eq_some_iff,
    Option.some.injEq] at h
  obtain ⟨_, -, _, -, _, -, rfl⟩ := h
  have hx := (Intents.get?_setField hx).resolve_left fun h => hbuy h.1
  have hx := (Intents.get?_setField hx.2).resolve_left fun h => hoffered h.1
  exact ((Intents.get?_setField hx.2).resolve_left fun h => hsell h.1).2

theorem evaluate_null_not_allowed (h : (e.evaluate .null).1 = .ok decision) :
    decision.decision.allowed = false := by
  by_contra hallowed
  obtain ⟨_, _, _, hpermitted⟩ := evaluate_allowed h (Bool.not_eq_false _ ▸ hallowed)
  cases hpermitted.maker

theorem evaluateSchedule_allowed (h : (e.evaluateSchedule input).1 = .ok decision)
    (hallowed : decision.decision.allowed = true) :
    ∃ makerId value t, Permitted e input decision makerId value t := by
  unfold Economics.evaluateSchedule at h
  split at h
  · exact evaluate_allowed h hallowed
  · split at h
    · cases hallowed.symm.trans (evaluate_null_not_allowed h)
    · rename_i scheduled hscheduled
      split at h
      · rename_i next heq
        cases h
        obtain ⟨makerId, value, t, hpermitted⟩ := evaluate_allowed (by rw [heq]) hallowed
        refine ⟨makerId, value, t, ?_, hpermitted.derived, ?_, hpermitted.positive, hpermitted.room⟩
        · exact get?_scheduledInput hscheduled (by decide) (by decide) (by decide) hpermitted.maker
        · exact get?_scheduledInput hscheduled (by decide) (by decide) (by decide) hpermitted.time
      · cases hallowed.symm.trans (evaluate_null_not_allowed h)

end App20.Localnet
