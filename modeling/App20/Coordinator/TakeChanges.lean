import App20.Coordinator.System

/-!
# What the coordinator changes of v3 requests

An operation on a v3 request stores one request under its digest: a new one, or one that a stored request
comes to by one of a few moves. What is proved of takes and of the fanout journal is proved of these.

* `applyV3_ok`: an operation of v3 requests.
* `expireV3Requests_ok`: the automatic expiry.
-/

namespace App20.Coordinator

open App20.Lib App20.Domain

/-! ## Stored requests -/

/-- The fields of a v3 request have what its state needs, and no more. -/
structure V3Request.Consistent (r : V3Request) : Prop where
  cohort : 1 ≤ r.makerPlans.length ∧ r.makerPlans.length ≤ maxV3Makers
  wires : ∃ plans, r.makerPlans.mapM validateV3MakerPlan = .ok plans
  plans : (r.makerPlans.map V3MakerPlan.makerId).Nodup
  closed : r.closedTakeAttempts.length ≤ maxClosedTakeAttempts ∧
    (r.closedTakeAttempts.map ClosedTake.attemptId).Nodup
  admitted : r.createdAt < r.expiresAt ∧ r.admittedAt < r.expiresAt
  fanout : r.fanoutComplete = true → r.makerPlans.any (·.outcome.isPlanned) = false
  take : r.state.isTake = true → r.takeAttemptId.isSome = true ∧ r.expected.isSome = true
  opened : r.state = .opened →
    r.takeAttemptId = none ∧ r.expected = none ∧ r.takeTransactionHash = none
  expired : r.state = .expired → r.ExpirySound
  unexpired : r.state ≠ .expired → r.expiredAt = none ∧ r.expiredFromState = none

variable {r : V3Request} {makerId rfqDigest attemptId : Text} {input : TakeInput}

theorem checkV3Request_ok {r' : V3Request} : checkV3Request r = .ok r' ↔ r' = r ∧ r.Consistent := by
  have hsome {α : Type} {o : Option α} : ¬ o.isNone = true ↔ o.isSome = true := by
    cases o <;> simp
  have hnone {α : Type} {o : Option α} : ¬ o.isSome = true ↔ o = none := by
    cases o <;> simp
  simp only [checkV3Request, bind_ok, throwIf_ok, pure_ok, exists_const, not_and,
    not_or, not_not, hsome, hnone, Bool.not_eq_true, not_lt, not_le]
  constructor
  · rintro ⟨hcohort, plans, hwires, hplans, hclosed, hadmitted, hfanout, htake, hopened, hexpired,
      hunexpired, rfl⟩
    exact ⟨rfl, hcohort, ⟨plans, hwires⟩, hplans, hclosed, hadmitted, hfanout, htake, hopened,
      hexpired, hunexpired⟩
  · rintro ⟨rfl, h⟩
    obtain ⟨plans, hwires⟩ := h.wires
    exact ⟨h.cohort, plans, hwires, h.plans, h.closed, h.admitted, h.fanout, h.take, h.opened,
      h.expired, h.unexpired, rfl⟩

/-! ## Moves of a request -/

/-- Whether the outcome of the attempt of a request is not known. -/
def V3Request.Unknown (r : V3Request) : Prop :=
  r.state = .takeUnknown ∨ r.state = .expired ∧ r.expiredFromState = some .takeUnknown

/-- An attempt whose outcome is not known, with what is known of its hash. -/
def V3Request.unknown (r : V3Request) (hash : Option Text) : V3Request :=
  if r.state = .expired then
    { r with expiredFromState := some .takeUnknown, takeTransactionHash := hash }
  else { r with state := .takeUnknown, takeTransactionHash := hash }

def V3Request.close (r : V3Request) (attempt : Text) (expected : TakeExpected) : V3Request :=
  { r with
    expected := none, takeAttemptId := none, takeTransactionHash := none
    state := if r.state = .expired then .expired else .opened
    expiredFromState := if r.state = .expired then some .opened else r.expiredFromState
    closedTakeAttempts := r.closedTakeAttempts ++ [⟨attempt, expected⟩] }

def V3Request.take (r : V3Request) (hash : Option Text) : V3Request :=
  { r with
    expiredAt := none, expiredFromState := none, state := .taken, takeTransactionHash := hash }

def V3Request.expireAt (r : V3Request) (stamp : Int) : V3Request :=
  { r with state := .expired, expiredAt := some stamp, expiredFromState := some r.state }

/-- A hash that an attempt may have beside what is recorded of it. -/
def V3Request.Hashes (r : V3Request) (hash : Option Text) : Prop :=
  ∀ recorded ∈ r.takeTransactionHash, hash = some recorded

/-- What is given of a take fits a request and its journal, whatever state its attempt is in. -/
structure V3Request.Exact (r : V3Request) (input : TakeInput) (expected : TakeExpected) : Prop where
  rfqId : requireFelt input.rfqId "rfqId" = .ok r.binding.rfqId
  dealId : requireFelt input.dealId "dealId" = .ok r.binding.rfqId
  account : requireFelt input.account "account" = .ok r.binding.account
  chainId : ∃ chainId, requireText input.chainId "chainId" = .ok chainId ∧
    r.binding.chainId = toLowerCase chainId
  intentDigest : ∀ digest ∈ input.intentDigest,
    requireHex32 digest "intentDigest" = .ok r.binding.intentDigest
  fanout : r.fanoutComplete = true
  transcript : r.transcriptDigest.isSome = true
  terms : canonicalLocalnetTakeExpected input.expected = .ok expected
  fills : ∃ checked, expected.fills.mapM (Authority.checkFill r.makerPlans expected) = .ok checked

structure V3Request.Given (r : V3Request) (input : TakeInput) (attemptId attempt : Text)
    (expected : TakeExpected) : Prop where
  exact : r.Exact input expected
  attempt : requireAttemptId attemptId "attemptId" = .ok attempt

inductive V3Move (cap : Nat) (op : V3Operation) (r : V3Request) : V3Request → Prop
  | outcome {makerId : Text} {plan : V3MakerPlan} {result : MakerOutcome}
      (hplan : Authority.v3PlanOf r.makerPlans makerId = some plan)
      (hplanned : plan.outcome.isPlanned = true) :
      V3Move cap op r { r with makerPlans := Authority.setOutcome r.makerPlans makerId result }
  | fanout : V3Move cap op r { r with fanoutComplete := true }
  | transcript {digest : Text} (hnone : r.transcriptDigest = none) :
      V3Move cap op r { r with transcriptDigest := some digest }
  | prepare {input : TakeInput} {attemptId attempt : Text} {expected : TakeExpected}
      (hop : op = .prepareTake input attemptId) (hgiven : r.Given input attemptId attempt expected)
      (hstate : r.state = .opened) (hclosed : Authority.closedAttempt r attempt = none)
      (hcap : r.closedTakeAttempts.length < cap) :
      V3Move cap op r { r with
        state := .takePending, takeAttemptId := some attempt, expected := some expected }
  | unknown {input : TakeInput} {attemptId attempt : Text} {expected : TakeExpected}
      {hash : Option Text} (hop : op = .markTakeUnknown input attemptId)
      (hgiven : r.Given input attemptId attempt expected) (hopened : r.state ≠ .opened)
      (htaken : r.state ≠ .taken) (hheld : Authority.Holds r attempt expected)
      (hhash : r.Hashes hash) : V3Move cap op r (r.unknown hash)
  | close {input : TakeInput} {attemptId attempt : Text} {expected : TakeExpected}
      (hop : op = .abandonTake input attemptId ∧ ¬ r.Unknown ∨ op = .markTakeAbsent input attemptId)
      (hgiven : r.Given input attemptId attempt expected) (htaken : r.state ≠ .taken)
      (hheld : r.state ≠ .opened → Authority.Holds r attempt expected)
      (hclosed : Authority.closedAttempt r attempt = none)
      (hcap : r.closedTakeAttempts.length < cap) : V3Move cap op r (r.close attempt expected)
  | take {input : TakeInput} {attemptId attempt : Text} {expected : TakeExpected}
      {hash : Option Text} (hop : op = .observeTaken input attemptId)
      (hgiven : r.Given input attemptId attempt expected) (hopened : r.state ≠ .opened)
      (hheld : Authority.Holds r attempt expected) (hhash : r.Hashes hash) :
      V3Move cap op r (r.take hash)

namespace Authority

variable {a next : Authority} {config : Config} {limits : Limits} {op : V3Operation}
  {result : V3Request}

theorem v3RequestOf_ok {digest : Text} {missing : String} (h : a.v3RequestOf digest missing = .ok r) :
    r.rfqDigest = digest ∧ a.v3Requests.get? r.rfqDigest = some r := by
  unfold v3RequestOf at h
  split at h
  · rename_i request hrequest
    cases h
    have hkey := (Table.get?_eq_some.mp hrequest).2
    exact ⟨hkey, hkey.symm ▸ hrequest⟩
  · cases h

/-- One v3 request that is stored: a new one, or one that a stored one comes to. -/
inductive V3Change (limits : Limits) (op : V3Operation) (a : Authority) : Authority → Prop
  | begins {r : V3Request} (hnew : a.v3Requests.get? r.rfqDigest = none)
      (hrfq : ∀ q ∈ a.v3Requests.entries, q.binding.rfqId ≠ r.binding.rfqId)
      (hstate : r.state = .opened) (hclosed : r.closedTakeAttempts = []) (hok : r.Consistent) :
      V3Change limits op a (a.putV3Request r)
  | moves {r r' : V3Request} (hr : a.v3Requests.get? r.rfqDigest = some r)
      (hmove : V3Move limits.maxClosedTakeAttempts op r r') (hok : r'.Consistent) :
      V3Change limits op a (a.putV3Request r')

/-- What may happen to the v3 requests at once: nothing, one change by an operation that may be carried
out, or an expiry. -/
inductive V3Progress (limits : Limits) (takes : V3Operation → Prop) (a b : Authority) : Prop
  | same (h : b.v3Requests = a.v3Requests)
  | change {op : V3Operation} (hop : takes op) (h : V3Change limits op a b)
  | expire {stamp : Int} (h : a.expireV3Requests stamp = .ok b)

theorem V3Change.same (h : V3Change limits op a next) :
    next.records = a.records ∧ next.requests = a.requests ∧ next.deals = a.deals := by
  cases h <;> exact ⟨rfl, rfl, rfl⟩

theorem store_v3Change {r' : V3Request} (hr : a.v3Requests.get? r.rfqDigest = some r)
    (hmove : V3Move limits.maxClosedTakeAttempts op r r')
    (h : a.store r' = .ok (.stored next result)) : V3Change limits op a next := by
  simp only [store, bind_ok, pure_ok] at h
  obtain ⟨n, hn, h⟩ := h
  obtain ⟨rfl, hok⟩ := checkV3Request_ok.mp hn
  cases h
  exact .moves hr hmove hok

/-! ## The fanout journal -/

theorem v3Owner_fresh (hnew : a.v3Requests.get? r.rfqDigest = none)
    (howner : (a.v3Owner r.binding.rfqId).any (· ≠ r.rfqDigest) = false) :
    ∀ q ∈ a.v3Requests.entries, q.binding.rfqId ≠ r.binding.rfqId := by
  intro q hq hsame
  unfold v3Owner at howner
  cases hfind : a.v3Requests.entries.find? fun q => q.binding.rfqId = r.binding.rfqId with
  | none => simpa [hsame] using List.find?_eq_none.mp hfind q hq
  | some owner =>
    rw [hfind] at howner
    have hdigest : owner.rfqDigest = r.rfqDigest := by simpa using howner
    rw [← hdigest, Table.get?_mem (List.mem_of_find?_eq_some hfind)] at hnew
    cases hnew

theorem beginV3Request_change {input : V3RequestInput} {now : Int}
    (h : a.beginV3Request config.localeCompare limits input now = .ok (.stored next result)) :
    V3Change limits op a next := by
  simp only [beginV3Request, bind_ok] at h
  obtain ⟨r, hbegins, h⟩ := h
  split at h <;> simp only [bind_ok, pure_ok] at h
  · obtain ⟨_, -, h⟩ := h
    cases h
  · rename_i hnew
    simp only [throwIf_ok] at h
    obtain ⟨_, -, _, hrfq, _, -, h⟩ := h
    cases h
    have hfresh := v3Owner_fresh hnew (Bool.eq_false_of_not_eq_true hrfq)
    simp only [beginningV3Request, bind_ok] at hbegins
    obtain ⟨_, -, _, -, _, -, _, -, _, -, _, -, _, -, _, -, _, -, _, -, hcheck⟩ := hbegins
    obtain ⟨rfl, hok⟩ := checkV3Request_ok.mp hcheck
    exact .begins hnew hfresh rfl rfl hok

theorem recordOutcome_change {plan : V3MakerPlan} {outcome : MakerOutcome}
    (hr : a.v3Requests.get? r.rfqDigest = some r)
    (hplan : v3PlanOf r.makerPlans makerId = some plan) (hplanned : plan.outcome.isPlanned = true)
    (h : a.recordOutcome r makerId outcome = .ok (.stored next result)) :
    V3Change limits op a next := store_v3Change hr (.outcome hplan hplanned) h

theorem recordV3Quote_change {quoteDigest : Text} {quote : Json}
    (h : a.recordV3Quote config.sha256 config.sameWire rfqDigest makerId quote quoteDigest =
      .ok (.stored next result)) : V3Change limits op a next := by
  simp only [recordV3Quote, bind_ok] at h
  obtain ⟨digest, -, maker, -, r, hr, h⟩ := h
  split at h
  · cases h
  · rename_i plan hplan
    simp only [bind_ok] at h
    obtain ⟨_, -, _, -, _, -, _, -, h⟩ := h
    split at h
    · simp only [bind_ok, pure_ok] at h
      obtain ⟨_, -, h⟩ := h
      cases h
    · rename_i houtcome
      refine recordOutcome_change (v3RequestOf_ok hr).2 hplan ?_ h
      rw [houtcome]
      rfl
    · cases h

theorem recordV3Refusal_change {reason : Text} {code : RefusalCode} {state : RefusalState}
    (h : a.recordV3Refusal config.sha256 rfqDigest makerId code reason state =
      .ok (.stored next result)) : V3Change limits op a next := by
  simp only [recordV3Refusal, bind_ok] at h
  obtain ⟨digest, -, maker, -, _, -, r, hr, h⟩ := h
  split at h
  · cases h
  · rename_i plan hplan
    split at h
    · simp only [bind_ok, pure_ok] at h
      obtain ⟨_, -, h⟩ := h
      cases h
    · split at h
      · rename_i hplanned
        exact recordOutcome_change (v3RequestOf_ok hr).2 hplan hplanned h
      · cases h

theorem completeV3Fanout_change (h : a.completeV3Fanout rfqDigest = .ok (.stored next result)) :
    V3Change limits op a next := by
  simp only [completeV3Fanout, bind_ok] at h
  obtain ⟨digest, -, r, hr, _, -, h⟩ := h
  split at h
  · cases h
  · exact store_v3Change (v3RequestOf_ok hr).2 .fanout h

theorem journalV3Transcript_change {transcriptDigest : Text}
    (h : a.journalV3Transcript rfqDigest transcriptDigest = .ok (.stored next result)) :
    V3Change limits op a next := by
  simp only [journalV3Transcript, bind_ok] at h
  obtain ⟨digest, -, _, -, r, hr, _, -, h⟩ := h
  split at h
  · simp only [bind_ok, pure_ok] at h
    obtain ⟨_, -, h⟩ := h
    cases h
  · rename_i hnone
    exact store_v3Change (v3RequestOf_ok hr).2 (.transcript hnone) h

/-! ## Takes -/

theorem owner_get? {rfqId : Text} (h : (a.v3Owner rfqId).bind a.v3Requests.get? = some r) :
    a.v3Requests.get? r.rfqDigest = some r ∧ r.binding.rfqId = rfqId := by
  obtain ⟨digest, howner, hget⟩ := Option.bind_eq_some_iff.mp h
  obtain ⟨q, hq, rfl⟩ := Option.map_eq_some_iff.mp howner
  have hmem := List.mem_of_find?_eq_some hq
  have hsome := List.find?_some hq
  rw [Table.get?_mem hmem] at hget
  cases hget
  exact ⟨Table.get?_mem hmem, of_decide_eq_true hsome⟩

theorem exactV3Take_ok {action : String} {expected : TakeExpected} :
    a.exactV3Take input action = .ok (r, expected) ↔
      (a.v3Owner r.binding.rfqId).bind a.v3Requests.get? = some r ∧ r.Exact input expected := by
  have hsome {α : Type} {o : Option α} : ¬ o.isNone = true ↔ o.isSome = true := by
    cases o <;> simp
  simp only [exactV3Take, bind_ok, throwIf_ok, not_not]
  constructor
  · rintro ⟨rfqId, hrfqId, dealId, hdealId, _, rfl, h⟩
    split at h
    · cases h
    · rename_i request hrequest
      obtain ⟨-, rfl⟩ := owner_get? hrequest
      simp only [bind_ok, throwIf_ok, not_not] at h
      obtain ⟨account, haccount, _, rfl, chainId, hchainId, _, hchain, h⟩ := h
      split at h <;> simp only [bind_ok, throwIf_ok, not_not, pure_ok,
        Prod.mk.injEq, hsome, Bool.not_eq_false] at h
      · rename_i hnone
        obtain ⟨_, hfanout, _, htranscript, terms, hterms, hfills, hchecked, rfl, rfl⟩ := h
        refine ⟨hrequest, hrfqId, hdealId, haccount, ⟨chainId, hchainId, hchain⟩, fun digest hmem => ?_,
          hfanout, htranscript, hterms, hfills, hchecked⟩
        rw [hnone] at hmem
        cases hmem
      · rename_i digest hdigest
        obtain ⟨_, hhex, _, rfl, _, hfanout, _, htranscript, terms, hterms, hfills, hchecked, rfl,
          rfl⟩ := h
        refine ⟨hrequest, hrfqId, hdealId, haccount, ⟨chainId, hchainId, hchain⟩, fun digest hmem => ?_,
          hfanout, htranscript, hterms, hfills, hchecked⟩
        rw [hdigest] at hmem
        cases hmem
        exact hhex
  · rintro ⟨howner, h⟩
    obtain ⟨chainId, hchainId, hchain⟩ := h.chainId
    obtain ⟨checked, hchecked⟩ := h.fills
    refine ⟨_, h.rfqId, _, h.dealId, (), rfl, ?_⟩
    rw [howner]
    simp only [bind_ok, throwIf_ok, not_not]
    refine ⟨_, h.account, (), rfl, chainId, hchainId, (), hchain, ?_⟩
    split <;> simp only [bind_ok, throwIf_ok, not_not, pure_ok, Prod.mk.injEq,
      hsome, Bool.not_eq_false]
    · exact ⟨(), h.fanout, (), h.transcript, expected, h.terms, checked, hchecked, trivial, rfl⟩
    · rename_i digest hdigest
      exact ⟨_, h.intentDigest digest hdigest, (), rfl, (), h.fanout, (), h.transcript, expected,
        h.terms, checked, hchecked, trivial, rfl⟩

theorem takeHash_ok {transactionHash hash : Option Text}
    (h : takeHash r transactionHash = .ok hash) : r.Hashes hash := by
  intro recorded hrecorded
  unfold takeHash at h
  split at h
  · cases h
    exact hrecorded
  · simp only [bind_ok, pure_ok, throwIf_ok] at h
    obtain ⟨given, -, _, hsame, rfl⟩ := h
    rw [Option.mem_def.mp hrecorded] at hsame
    have hgiven : recorded = given := by simpa using hsame
    rw [hgiven]

theorem prepareTake_change (h : a.prepareTake limits input attemptId = .ok (.stored next result)) :
    V3Change limits (.prepareTake input attemptId) a next := by
  simp only [prepareTake, bind_ok, throwIf_ok] at h
  obtain ⟨⟨r, expected⟩, hexact, attempt, hattempt, _, hclosed, h⟩ := h
  obtain ⟨howner, hgiven⟩ := exactV3Take_ok.mp hexact
  split at h
  · cases h
  · cases h
  · cases h
  · simp only [bind_ok, pure_ok] at h
    obtain ⟨_, -, h⟩ := h
    cases h
  · rename_i hstate
    simp only [bind_ok, throwIf_ok] at h
    obtain ⟨_, hcap, h⟩ := h
    exact store_v3Change (owner_get? howner).1
      (.prepare rfl ⟨hgiven, hattempt⟩ hstate (by simpa using hclosed) (by omega)) h

theorem markTakeUnknown_change (h : a.markTakeUnknown input attemptId = .ok (.stored next result)) :
    V3Change limits (.markTakeUnknown input attemptId) a next := by
  simp only [markTakeUnknown, bind_ok, throwIf_ok, not_or, not_not] at h
  obtain ⟨⟨r, expected⟩, hexact, attempt, hattempt, _, ⟨hopened, htaken, hheld⟩, hash, hhash, h⟩ := h
  obtain ⟨howner, hgiven⟩ := exactV3Take_ok.mp hexact
  have hmove : V3Move limits.maxClosedTakeAttempts (.markTakeUnknown input attemptId) r
      (r.unknown hash) := .unknown rfl ⟨hgiven, hattempt⟩ hopened htaken hheld (takeHash_ok hhash)
  have hstored : a.store (r.unknown hash) = .ok (.stored next result) := by
    unfold V3Request.unknown
    split at h
    · cases h
    · split at h
      · rename_i hexpired
        rw [if_pos hexpired]
        exact h
      · rename_i hexpired
        rw [if_neg hexpired]
        exact h
  exact store_v3Change (owner_get? howner).1 hmove hstored

theorem closeTake_change {attempt : Text} {expected : TakeExpected}
    (hop : op = .abandonTake input attemptId ∧ ¬ r.Unknown ∨ op = .markTakeAbsent input attemptId)
    (hgiven : r.Given input attemptId attempt expected)
    (hr : a.v3Requests.get? r.rfqDigest = some r) (htaken : r.state ≠ .taken)
    (hheld : r.state ≠ .opened → Holds r attempt expected)
    (hclosed : closedAttempt r attempt = none)
    (h : a.closeTake limits r attempt expected = .ok (.stored next result)) :
    V3Change limits op a next := by
  simp only [closeTake, bind_ok, throwIf_ok] at h
  obtain ⟨_, hcap, h⟩ := h
  exact store_v3Change hr (.close hop hgiven htaken hheld hclosed (by omega)) h

theorem abandonTake_change (h : a.abandonTake limits input attemptId = .ok (.stored next result)) :
    V3Change limits (.abandonTake input attemptId) a next := by
  simp only [abandonTake, bind_ok] at h
  obtain ⟨⟨r, expected⟩, hexact, attempt, hattempt, h⟩ := h
  obtain ⟨howner, hgiven⟩ := exactV3Take_ok.mp hexact
  split at h
  · simp only [bind_ok, pure_ok] at h
    obtain ⟨_, -, h⟩ := h
    cases h
  · rename_i hclosed
    simp only [bind_ok, throwIf_ok] at h
    obtain ⟨_, hunsent, _, hheld, h⟩ := h
    have hunknown : ¬ r.Unknown := by
      rintro (hstate | hstate)
      · exact hunsent (Or.inl hstate)
      · exact hunsent (Or.inr (Or.inr hstate))
    have htaken : r.state ≠ .taken := fun hstate => hunsent (Or.inr (Or.inl hstate))
    refine closeTake_change (Or.inl ⟨rfl, hunknown⟩) ⟨hgiven, hattempt⟩ (owner_get? howner).1 htaken
      (fun hopened => ?_) hclosed h
    by_contra hother
    refine hheld ⟨?_, hother⟩
    cases hs : r.state with
    | opened => exact absurd hs hopened
    | takePending => exact Or.inl rfl
    | takeUnknown => exact absurd (Or.inl hs) hunknown
    | taken => exact absurd hs htaken
    | expired => exact Or.inr rfl

theorem observeTaken_change (h : a.observeTaken input attemptId = .ok (.stored next result)) :
    V3Change limits (.observeTaken input attemptId) a next := by
  simp only [observeTaken, bind_ok, throwIf_ok, not_or, not_not] at h
  obtain ⟨⟨r, expected⟩, hexact, attempt, hattempt, _, ⟨hopened, hheld⟩, hash, hhash, h⟩ := h
  obtain ⟨howner, hgiven⟩ := exactV3Take_ok.mp hexact
  split at h
  · cases h
  · exact store_v3Change (owner_get? howner).1
      (.take rfl ⟨hgiven, hattempt⟩ hopened hheld (takeHash_ok hhash)) h

theorem markTakeAbsent_change
    (h : a.markTakeAbsent limits input attemptId = .ok (.stored next result)) :
    V3Change limits (.markTakeAbsent input attemptId) a next := by
  simp only [markTakeAbsent, bind_ok] at h
  obtain ⟨⟨r, expected⟩, hexact, attempt, hattempt, h⟩ := h
  obtain ⟨howner, hgiven⟩ := exactV3Take_ok.mp hexact
  split at h
  · simp only [bind_ok, pure_ok] at h
    obtain ⟨_, -, h⟩ := h
    cases h
  · rename_i hclosed
    simp only [bind_ok, throwIf_ok, not_or, not_not] at h
    obtain ⟨_, ⟨hopened, htaken, hheld⟩, h⟩ := h
    exact closeTake_change (Or.inr rfl) ⟨hgiven, hattempt⟩ (owner_get? howner).1 htaken
      (fun _ => hheld) hclosed h

theorem applyV3_ok {operation : V3Operation}
    (h : a.applyV3 config operation = .ok (.stored next result)) :
    V3Change config.limits operation a next := by
  cases operation with
  | begin input now => exact beginV3Request_change h
  | recordQuote rfqDigest makerId quote quoteDigest => exact recordV3Quote_change h
  | recordRefusal rfqDigest makerId code reason state => exact recordV3Refusal_change h
  | completeFanout rfqDigest => exact completeV3Fanout_change h
  | journalTranscript rfqDigest transcriptDigest => exact journalV3Transcript_change h
  | prepareTake input attemptId => exact prepareTake_change h
  | markTakeUnknown input attemptId => exact markTakeUnknown_change h
  | abandonTake input attemptId => exact abandonTake_change h
  | observeTaken input attemptId => exact observeTaken_change h
  | markTakeAbsent input attemptId => exact markTakeAbsent_change h

end Authority

end App20.Coordinator
