import App20.ChatEscrow.DealRuns

/-!
# Exits of escrow operations

An operation of a deal whose transactions are known to have reverted should be open to another
attempt, and one whose transaction is known to have succeeded should get to be confirmed. Nothing
leads out of an operation that was marked as unknown.

* `DealRead`: what every stored deal satisfies, beside `DealLawful`.
* `Stuck`: the operations that no operation of the module changes, short of being confirmed.
* `exits_iff`: when an operation has its exits, after any operations.
-/

namespace App20.ChatEscrow

open App20.Lib App20.Domain
open App20.Otc (feltEquals)

/-! ## What is known of transactions -/

inductive Fate where
  | succeeded | reverted

def Said (operation : Operation) (state : EscrowOperationState) (hash : Text) : Prop :=
  match operation with
  | .confirmEscrowOperation _ _ transactionHash =>
    state = .confirmed ∧ feltText transactionHash false = some hash
  | .markEscrowOperationOutcome _ _ transactionHash outcome =>
    state = outcome.state ∧ feltText transactionHash false = some hash
  | _ => False

/-- The operation confirms nothing that is known to have reverted, and reverts nothing that is known
to have succeeded. -/
def Consistent (fate : Text → Option Fate) (a : Action) : Prop :=
  ∀ hash, (Said a.operation .confirmed hash → fate hash ≠ some .reverted) ∧
    (Said a.operation .reverted hash → fate hash ≠ some .succeeded)

/-- Operations that are consistent with what is known lead from one state to the other. -/
def Leads (fate : Text → Option Fate) (s s' : Sys) : Prop :=
  ∃ as, (∀ a ∈ as, Consistent fate a) ∧ run step s as = s'

variable {fate : Text → Option Fate} {s s' s'' : Sys}

theorem Leads.refl (s : Sys) : Leads fate s s := ⟨[], nofun, rfl⟩

theorem Leads.trans (h : Leads fate s s') (h' : Leads fate s' s'') : Leads fate s s'' := by
  obtain ⟨as, has, rfl⟩ := h
  obtain ⟨bs, hbs, rfl⟩ := h'
  refine ⟨as ++ bs, fun a ha => ?_, run_append⟩
  rcases List.mem_append.mp ha with ha | ha
  · exact has a ha
  · exact hbs a ha

variable {a : Action} {n : Nat}

theorem Leads.step (h : Consistent fate a) : Leads fate s (step s a) := by
  refine ⟨[a], fun b hb => ?_, rfl⟩
  obtain rfl := List.mem_singleton.mp hb
  exact h

/-- An operation that says nothing of a transaction is consistent with everything. -/
theorem consistent_of_silent (h : ∀ state hash, ¬ Said a.operation state hash) :
    Consistent fate a :=
  fun hash => ⟨fun hsaid => absurd hsaid (h _ hash), fun hsaid => absurd hsaid (h _ hash)⟩

/-! ## Stored deals -/

/-- A hash is recorded with the submission, as it was read; what became of it is only recorded when
the hash can be compared. -/
structure OperationRead (o : EscrowOperationRecord) : Prop where
  reserved : o.state = .reserved → o.transactionHash = none
  hash : o.state ≠ .reserved → ∃ n, o.transactionHash = some (hex n) ∧
    feltText (hex n) false = some (hex n) ∧ (o.state ≠ .submitted → n < starknetFeltLimit)

structure DealRead (id : Text) (r : EscrowDealRecord) : Prop where
  dealId : feltText id false = some id
  operations : ∀ operation o, r.operations operation = some o → OperationRead o
  /-- Only a deal that the chain can match gets beyond its funding. -/
  terms : ∀ operation, r.operations operation ≠ none → operation ≠ .fund →
    ∃ chainDeal, contractDealMatchesFund chainDeal r.fund = true

variable {id : Text} {r r' current : EscrowDealRecord} {operation : EscrowOperation} {now : Int}

theorem DealRead.withOperation {o : Option EscrowOperationRecord} (h : DealRead id current)
    (ho : ∀ o', o = some o' → OperationRead o') (hterms : o ≠ none → operation ≠ .fund →
      ∃ chainDeal, contractDealMatchesFund chainDeal current.fund = true) :
    DealRead id (current.withOperation operation o now) := by
  refine ⟨h.dealId, fun other o' ho' => ?_, fun other hsome hfund => ?_⟩
  · by_cases hother : other = operation
    · subst hother
      exact ho o' (withOperation_self.symm.trans ho')
    · exact h.operations other o' ((withOperation_other hother).symm.trans ho')
  · by_cases hother : other = operation
    · subst hother
      rw [withOperation_self] at hsome
      exact hterms hsome hfund
    · rw [withOperation_other hother] at hsome
      exact h.terms other hsome hfund

/-- What was submitted under a hash has been read, and the hash can be compared. -/
theorem OperationRead.of_matches (h : DealRead id current)
    (hmatches : matchesSubmitted current operation (hex n) = true) :
    current.operations operation ≠ none ∧ feltText (hex n) false = some (hex n) ∧
      n < starknetFeltLimit := by
  obtain ⟨o, submitted, ho, hstate, hsubmitted, -, hequal⟩ := matchesSubmitted_iff.mp hmatches
  have hne : o.state ≠ .reserved := by
    rw [hstate]
    exact nofun
  obtain ⟨m, hhash, hread, -⟩ := (h.operations operation o ho).hash hne
  obtain rfl := Option.some.inj (hsubmitted.symm.trans hhash)
  obtain ⟨rfl, hlt⟩ := feltEquals_hex.mp hequal
  refine ⟨?_, hread, hlt⟩
  rw [ho]
  exact nofun

theorem isReserved_iff : isReserved r operation = true ↔
    ∃ o, r.operations operation = some o ∧ o.state = .reserved := by
  unfold isReserved
  rw [Option.any_eq_true]
  simp only [decide_eq_true_eq]

/-- The chain said something of a deal beyond its funding. -/
theorem matched_of_allowed (hchain : ChainMatches current)
    (h : assertOperationAllowed current operation now = .ok ()) (hfund : operation ≠ .fund) :
    ∃ chainDeal, contractDealMatchesFund chainDeal current.fund = true := by
  have hstatus := (assertOperationAllowed_ok h).2
  have hsome : ∃ status, current.chainStatus = some status ∧ status ≠ .empty := by
    cases operation with
    | fund => exact absurd rfl hfund
    | fill | timeout =>
      obtain ⟨_, hfunded, -⟩ := bind_ok.mp hstatus
      exact ⟨.funded, not_not.mp (throwIf_ok.mp hfunded), nofun⟩
    | claim => exact ⟨.filled, not_not.mp (throwIf_ok.mp hstatus), nofun⟩
  obtain ⟨status, hstatus, hne⟩ := hsome
  obtain ⟨chainDeal, -, -, hmatches⟩ := hchain status hstatus hne
  exact ⟨chainDeal, hmatches⟩

theorem DealRead.move {before : Option EscrowDealRecord} {event : Option (EscrowOperation × Event)}
    (h : ∀ r, before = some r → DealRead id r ∧ ChainMatches r)
    (hmove : EscrowMove id now before (some r') event) : DealRead id r' := by
  cases hmove with
  | same => exact (h _ rfl).1
  | announced _ hid => exact ⟨hid, nofun, fun _ hsome => absurd rfl hsome⟩
  | hinted | observed =>
    obtain ⟨hread, -⟩ := h _ rfl
    exact ⟨hread.dealId, hread.operations, hread.terms⟩
  | reserved hallowed =>
    obtain ⟨hread, hchain⟩ := h _ rfl
    refine hread.withOperation ?_ fun _ hfund => matched_of_allowed hchain hallowed hfund
    rintro _ ⟨⟩
    exact ⟨fun _ => rfl, fun hne => absurd rfl hne⟩
  | submitted hreserved hhash =>
    obtain ⟨hread, -⟩ := h _ rfl
    obtain ⟨o, ho, -⟩ := isReserved_iff.mp hreserved
    refine hread.withOperation ?_ fun _ => hread.terms _ (by rw [ho]; exact nofun)
    rintro _ ⟨⟩
    exact ⟨nofun, fun _ => ⟨_, rfl, hhash, fun hne => absurd rfl hne⟩⟩
  | @kept _ _ state _ hstate hmatches =>
    obtain ⟨hread, -⟩ := h _ rfl
    obtain ⟨hsome, hhash, hlt⟩ := OperationRead.of_matches hread hmatches
    refine hread.withOperation ?_ fun _ => hread.terms _ hsome
    rintro _ ⟨⟩
    refine ⟨fun hreserved => ?_, fun _ => ⟨_, rfl, hhash, fun _ => hlt⟩⟩
    have hreserved : state = .reserved := hreserved
    subst hreserved
    rcases hstate with hstate | hstate <;> cases hstate
  | reverted hmatches =>
    obtain ⟨hread, -⟩ := h _ rfl
    obtain ⟨hsome, hhash, hlt⟩ := OperationRead.of_matches hread hmatches
    refine hread.withOperation ?_ fun _ => hread.terms _ hsome
    rintro _ ⟨⟩
    exact ⟨nofun, fun _ => ⟨_, rfl, hhash, fun _ => hlt⟩⟩
  | released hreserved =>
    obtain ⟨hread, -⟩ := h _ rfl
    exact hread.withOperation nofun fun hsome => absurd rfl hsome

/-- All that holds of the stored deals in every run. -/
structure SysRead (s : Sys) : Prop where
  lawful : SysLawful s
  read : ∀ id r, s.deals id = some r → DealRead id r

theorem SysRead.chain (h : SysRead s) (hr : s.deals id = some r) : ChainMatches r := by
  have hinv := h.lawful.deals id
  rw [hr] at hinv
  exact hinv.chain

theorem SysRead.step (h : SysRead s) (a : Action) : SysRead (step s a) := by
  refine ⟨h.lawful.step a, fun id r hr => ?_⟩
  obtain ⟨event, hmove, -⟩ := deal_moves h.lawful.keyed a id
  rw [hr] at hmove
  exact .move (fun r₀ hr₀ => ⟨h.read id r₀ hr₀, h.chain hr₀⟩) hmove

theorem sysRead_run (as : List Action) : SysRead (run step initial as) :=
  run_invariant (fun _ a h => h.step a) as ⟨sysLawful_initial, fun _ _ h => (nomatch h)⟩

/-! ## Steps to an exit -/

theorem find_of_read (h : SysRead s) (hr : s.deals id = some r) : s.deals.find id = some r := by
  rw [EscrowDeals.find, (h.read id r hr).dealId]
  exact hr

theorem step_put (h : SysRead s) (hr : s.deals id = some r)
    (hperform : perform a s.deals = .ok (s.deals.put r.dealId r')) :
    (step s a).deals id = some r' := by
  have hid : r.dealId = id := h.lawful.keyed id r hr
  rw [hid] at hperform
  simp only [step, hperform]
  exact Function.update_self _ _ _

theorem step_release (h : SysRead s) (hr : s.deals id = some r)
    (hreserved : isReserved r operation = true) :
    (step s ⟨now, .releaseEscrowOperation id operation⟩).deals id =
      some (r.withOperation operation none now) := by
  refine step_put h hr ?_
  simp only [perform, releaseEscrowOperation, find_of_read h hr, hreserved, if_true]

theorem proceed_of_matches {state : EscrowOperationState} {e : String} (h : SysRead s)
    (hr : s.deals id = some r) (hmatches : matchesSubmitted r operation (hex n) = true) :
    proceed s.deals id operation (hex n) state e now = .ok (s.deals.put r.dealId
      (r.withOperation operation (some ⟨state, some (hex n), now⟩) now)) := by
  have hread := (OperationRead.of_matches (h.read id r hr) hmatches).2.1
  simp only [proceed, find_of_read h hr, hread]
  rw [throwIf_neg (by rw [hmatches]; exact nofun)]
  rfl

theorem step_submit (h : SysRead s) (hr : s.deals id = some r)
    (hreserved : isReserved r operation = true) (hread : feltText (hex n) false = some (hex n)) :
    (step s ⟨now, .markEscrowOperationSubmitted id operation (hex n)⟩).deals id =
      some (r.withOperation operation (some ⟨.submitted, some (hex n), now⟩) now) := by
  refine step_put h hr ?_
  simp only [perform, markEscrowOperationSubmitted, find_of_read h hr, hread]
  rw [throwIf_neg (by rw [hreserved]; exact nofun)]
  rfl

theorem step_claim (h : SysRead s) (hr : s.deals id = some r)
    (hallowed : assertOperationAllowed r operation now = .ok ()) :
    claimEscrowOperation s.deals id operation now =
      .ok (s.deals.put r.dealId (r.withOperation operation (some ⟨.reserved, none, now⟩) now)) := by
  simp only [claimEscrowOperation, find_of_read h hr, hallowed]
  rfl

theorem step_observe {chainDeal : EscrowContractDeal} (h : SysRead s) (hr : s.deals id = some r)
    (hmatches : chainDeal.status ≠ .empty → contractDealMatchesFund chainDeal r.fund = true) :
    (step s ⟨now, .recordEscrowChainDeal id chainDeal⟩).deals id = some { r with
      chainStatus := some chainDeal.status
      chainDeal := some chainDeal
      updatedAt := now } := by
  refine step_put h hr ?_
  simp only [perform, recordEscrowChainDeal, find_of_read h hr]
  rw [throwIf_neg (fun hne => by rw [hmatches hne.1] at hne; exact nomatch hne.2)]
  rfl

/-! ## Exits -/

/-- Nobody says what became of it, or its hash is too large to be compared as an address. -/
def Stuck (o : EscrowOperationRecord) : Prop :=
  o.state = .unknown ∨
    o.state = .submitted ∧ ∃ n, o.transactionHash = some (hex n) ∧ starknetFeltLimit ≤ n

/-- The status and the time allow a payout of the deal. -/
def Payable (r : EscrowDealRecord) (operation : EscrowOperation) (now : Int) : Prop :=
  operation = .claim ∧ r.chainStatus = some .filled ∨
    operation = .timeout ∧ r.chainStatus = some .funded ∧ r.fund.deadline ≤ now

/-- Every transaction that was recorded for the operation is known to have reverted. -/
def AllReverted (fate : Text → Option Fate) (attempts : Attempts) : Prop :=
  ∀ x ∈ attempts, ∀ hash, x.hash = some hash → fate hash = some .reverted

/-- The operation can be reserved again. -/
def Retries (fate : Text → Option Fate) (s : Sys) (task : Task) (now : Int) : Prop :=
  ∃ s', Leads fate s s' ∧
    ∃ deals, claimEscrowOperation s'.deals task.dealId task.operation now = .ok deals

def ConfirmedAs (s : Sys) (task : Task) (hash : Text) : Prop :=
  ∃ r o, s.deals task.dealId = some r ∧ r.operations task.operation = some o ∧
    o.state = .confirmed ∧ o.transactionHash = some hash

def Confirms (fate : Text → Option Fate) (s : Sys) (task : Task) (hash : Text) : Prop :=
  ∃ s', Leads fate s s' ∧ ConfirmedAs s' task hash

/-! ### What is stuck stays -/

variable {o : EscrowOperationRecord}

theorem Stuck.state (h : Stuck o) : o.state = .unknown ∨ o.state = .submitted := by
  rcases h with h | ⟨h, -⟩
  · exact .inl h
  · exact .inr h

section

variable (ho : r.operations operation = some o) (h : o.state = .confirmed ∨ Stuck o)

include ho h

theorem not_reserved_of_kept : ¬ isReserved r operation = true := by
  intro hreserved
  obtain ⟨o', ho', hstate⟩ := isReserved_iff.mp hreserved
  obtain rfl := Option.some.inj (ho.symm.trans ho')
  rw [hstate] at h
  rcases h with h | h
  · cases h
  · rcases h.state with h | h <;> rw [hstate] at h <;> cases h

theorem not_matches_of_kept : ¬ matchesSubmitted r operation (hex n) = true := by
  intro hmatches
  obtain ⟨o', submitted, ho', hstate, hsubmitted, -, hequal⟩ := matchesSubmitted_iff.mp hmatches
  obtain rfl := Option.some.inj (ho.symm.trans ho')
  rcases h with h | h | ⟨-, m, hhash, hle⟩
  · cases hstate.symm.trans h
  · cases hstate.symm.trans h
  · obtain rfl := Option.some.inj (hsubmitted.symm.trans hhash)
    obtain ⟨rfl, hlt⟩ := feltEquals_hex.mp hequal
    exact absurd hlt (not_lt.mpr hle)

theorem not_allowed_of_kept : ¬ assertOperationAllowed r operation now = .ok () := by
  intro hallowed
  have hany := (assertOperationAllowed_ok hallowed).1
  rw [ho, Option.any_some, decide_eq_false_iff_not, not_not] at hany
  rcases h with h | h
  · cases hany.symm.trans h
  · rcases h.state with h | h <;> cases hany.symm.trans h

end

theorem operations_other {o' : Option EscrowOperationRecord} {other : EscrowOperation}
    (ho : r.operations operation = some o) (hne : other ≠ operation) :
    (r.withOperation other o' now).operations operation = some o :=
  (withOperation_other hne.symm).trans ho

theorem EscrowMove.keeps {event : Option (EscrowOperation × Event)}
    (hmove : EscrowMove id now (some r) (some r') event) (ho : r.operations operation = some o)
    (h : o.state = .confirmed ∨ Stuck o) : r'.operations operation = some o := by
  cases hmove with
  | same | hinted | observed => exact ho
  | reserved hallowed =>
    refine operations_other ho fun heq => ?_
    subst heq
    exact not_allowed_of_kept ho h hallowed
  | submitted hreserved | released hreserved =>
    refine operations_other ho fun heq => ?_
    subst heq
    exact not_reserved_of_kept ho h hreserved
  | kept _ hmatches | reverted hmatches =>
    refine operations_other ho fun heq => ?_
    subst heq
    exact not_matches_of_kept ho h hmatches

theorem keeps_run (h : SysRead s) (as : List Action) (hr : s.deals id = some r)
    (ho : r.operations operation = some o) (hkept : o.state = .confirmed ∨ Stuck o) :
    ∃ r', (run step s as).deals id = some r' ∧ r'.operations operation = some o := by
  induction as generalizing s r with
  | nil => exact ⟨r, hr, ho⟩
  | cons a as ih =>
    obtain ⟨event, hmove, -⟩ := deal_moves h.lawful.keyed a id
    rw [hr] at hmove
    obtain ⟨r₁, hr₁⟩ := hmove.isSome
    rw [hr₁] at hmove
    exact ih (h.step a) hr₁ (hmove.keeps ho hkept)

theorem sysRead_leads (h : SysRead s) (hleads : Leads fate s s') : SysRead s' := by
  obtain ⟨as, -, rfl⟩ := hleads
  exact run_invariant (fun _ a h => h.step a) as h

theorem not_retries (h : SysRead s) (hr : s.deals id = some r)
    (ho : r.operations operation = some o) (hkept : o.state = .confirmed ∨ Stuck o) :
    ¬ Retries fate s ⟨id, operation⟩ now := by
  rintro ⟨s', hleads, deals, hclaim⟩
  have h' := sysRead_leads h hleads
  obtain ⟨as, -, rfl⟩ := hleads
  obtain ⟨r', hr', ho'⟩ := keeps_run h as hr ho hkept
  unfold claimEscrowOperation at hclaim
  rw [find_of_read h' hr'] at hclaim
  obtain ⟨_, hallowed, -⟩ := bind_ok.mp hclaim
  exact not_allowed_of_kept ho' hkept hallowed

theorem not_confirms {hash : Text} (h : SysRead s) (hr : s.deals id = some r)
    (ho : r.operations operation = some o) (hstuck : Stuck o) :
    ¬ Confirms fate s ⟨id, operation⟩ hash := by
  rintro ⟨s', ⟨as, -, rfl⟩, r₁, o₁, hr₁, ho₁, hstate, -⟩
  obtain ⟨r', hr', ho'⟩ := keeps_run h as hr ho (.inr hstuck)
  obtain rfl := Option.some.inj (hr₁.symm.trans hr')
  obtain rfl := Option.some.inj (ho₁.symm.trans ho')
  rcases hstuck.state with hstuck | hstuck <;> cases hstate.symm.trans hstuck

/-! ### What is not stuck has its exits -/

theorem allowed_of_payable (hpayable : Payable r operation now)
    (hany : (r.operations operation).any (fun prior => prior.state ≠ .reverted) = false) :
    assertOperationAllowed r operation now = .ok () := by
  refine bind_ok.mpr ⟨(), throwIf_neg (by rw [hany]; exact nofun), ?_⟩
  rcases hpayable with ⟨rfl, hstatus⟩ | ⟨rfl, hstatus, hdeadline⟩
  · exact throwIf_neg (not_not.mpr hstatus)
  · refine bind_ok.mpr ⟨(), throwIf_neg (not_not.mpr hstatus), ?_⟩
    exact throwIf_neg (not_lt.mpr hdeadline)

/-- A payable operation without an attempt that counts can be reserved. -/
theorem retries_of_leads (h : SysRead s) (hleads : Leads fate s s')
    (hr' : s'.deals id = some r') (hpayable : Payable r' operation now)
    (hany : (r'.operations operation).any (fun prior => prior.state ≠ .reverted) = false) :
    Retries fate s ⟨id, operation⟩ now :=
  ⟨s', hleads, _, step_claim (sysRead_leads h hleads) hr' (allowed_of_payable hpayable hany)⟩

theorem matches_of_submitted (ho : r.operations operation = some o) (hstate : o.state = .submitted)
    (hhash : o.transactionHash = some (hex n)) (hlt : n < starknetFeltLimit) :
    matchesSubmitted r operation (hex n) = true :=
  matchesSubmitted_iff.mpr ⟨o, hex n, ho, hstate, hhash, nofun, feltEquals_hex.mpr ⟨rfl, hlt⟩⟩

theorem lt_of_not_stuck (hstuck : ¬ Stuck o) (hstate : o.state = .submitted)
    (hhash : o.transactionHash = some (hex n)) : n < starknetFeltLimit :=
  not_le.mp fun hle => hstuck (.inr ⟨hstate, n, hhash, hle⟩)

theorem attempted_of_submitted (h : SysRead s) (hr : s.deals id = some r)
    (ho : r.operations operation = some o) (hstate : o.state = .submitted)
    (hhash : o.transactionHash = some (hex n)) :
    ∃ x ∈ s.attempts ⟨id, operation⟩, x.hash = some (hex n) := by
  have hinv := h.lawful.deals id
  rw [hr] at hinv
  obtain ⟨phase, hphase, htracks⟩ := hinv.phases operation
  rw [ho] at hphase
  cases hphase with
  | reverted hother | reserved hother => cases hstate.symm.trans hother
  | submitted _ hother =>
    obtain ⟨key, rest, heq, -⟩ := htracks
    rw [heq]
    exact ⟨_, List.mem_cons_self, hother.symm.trans hhash⟩
  | kept hother =>
    rw [hstate] at hother
    rcases hother with hother | hother <;> cases hother

theorem retries_of_open (h : SysRead s) (hr : s.deals id = some r)
    (hpayable : Payable r operation now) (hreverted : AllReverted fate (s.attempts ⟨id, operation⟩))
    (hopen : ∀ o, r.operations operation = some o → ¬ (o.state = .confirmed ∨ Stuck o)) :
    Retries fate s ⟨id, operation⟩ now := by
  rcases ho : r.operations operation with _ | o
  · refine retries_of_leads h (.refl s) hr hpayable ?_
    rw [ho]
    rfl
  have hnot := hopen o ho
  have hread := (h.read id r hr).operations operation o ho
  cases hstate : o.state with
  | reserved =>
    -- Nothing was submitted: the reservation is released.
    have hreserved : isReserved r operation = true := isReserved_iff.mpr ⟨o, ho, hstate⟩
    refine retries_of_leads h (.step (a := ⟨now, .releaseEscrowOperation id operation⟩)
      (consistent_of_silent fun _ _ hsaid => hsaid)) (step_release h hr hreserved) hpayable ?_
    rw [withOperation_self]
    rfl
  | submitted =>
    obtain ⟨n, hhash, hn, -⟩ := hread.hash (by rw [hstate]; exact nofun)
    have hmatches := matches_of_submitted ho hstate hhash
      (lt_of_not_stuck (fun hstuck => hnot (.inr hstuck)) hstate hhash)
    obtain ⟨x, hx, hxhash⟩ := attempted_of_submitted h hr ho hstate hhash
    have hfate := hreverted x hx _ hxhash
    have hconsistent : Consistent fate
        ⟨now, .markEscrowOperationOutcome id operation (hex n) .reverted⟩ := by
      rintro hash
      refine ⟨fun hsaid => (nomatch hsaid.1), fun hsaid hsucceeded => ?_⟩
      obtain rfl := Option.some.inj (hn.symm.trans hsaid.2)
      cases hfate.symm.trans hsucceeded
    refine retries_of_leads h (.step hconsistent)
      (step_put h hr (proceed_of_matches h hr hmatches)) hpayable ?_
    rw [withOperation_self]
    rfl
  | confirmed => exact absurd (.inl hstate) hnot
  | reverted =>
    refine retries_of_leads h (.refl s) hr hpayable ?_
    rw [ho, Option.any_some, hstate]
    rfl
  | unknown => exact absurd (.inr (.inl hstate)) hnot

theorem confirms_of_submitted (h : SysRead s) (hleads : Leads fate s s')
    (hr' : s'.deals id = some r') (ho : r'.operations operation = some o)
    (hstate : o.state = .submitted) (hhash : o.transactionHash = some (hex n))
    (hlt : n < starknetFeltLimit) (hfate : fate (hex n) = some .succeeded) :
    Confirms fate s ⟨id, operation⟩ (hex n) := by
  have h' := sysRead_leads h hleads
  have hmatches := matches_of_submitted ho hstate hhash hlt
  have hn := (OperationRead.of_matches (h'.read id r' hr') hmatches).2.1
  have hconsistent : Consistent fate ⟨0, .confirmEscrowOperation id operation (hex n)⟩ := by
    rintro hash
    refine ⟨fun hsaid hreverted => ?_, fun hsaid => (nomatch hsaid.1)⟩
    obtain rfl := Option.some.inj (hn.symm.trans hsaid.2)
    cases hfate.symm.trans hreverted
  exact ⟨_, hleads.trans (.step hconsistent), _, _,
    step_put h' hr' (proceed_of_matches h' hr' hmatches), withOperation_self, rfl, rfl⟩

/-- What the chain says when an operation can be reserved. -/
def EscrowOperation.status : EscrowOperation → EscrowContractStatus
  | .fund => .empty
  | .fill => .funded
  | .claim => .filled
  | .timeout => .funded

def EscrowOperation.time (fund : EscrowFundPayload) : EscrowOperation → Int
  | .fill => fund.deadline - 1
  | _ => fund.deadline

theorem statusAllows (hstatus : r.chainStatus = some operation.status) :
    assertStatusAllows r operation (operation.time r.fund) = .ok () := by
  cases operation with
  | fund =>
    refine throwIf_neg ?_
    rw [hstatus]
    exact nofun
  | fill =>
    refine bind_ok.mpr ⟨(), throwIf_neg (not_not.mpr hstatus), throwIf_neg ?_⟩
    exact not_le.mpr (Int.sub_one_lt_of_le (Int.le_refl _))
  | claim => exact throwIf_neg (not_not.mpr hstatus)
  | timeout =>
    refine bind_ok.mpr ⟨(), throwIf_neg (not_not.mpr hstatus), throwIf_neg ?_⟩
    exact lt_irrefl _

/-- The chain can say of a deal what an operation that was tried before needs. -/
theorem exists_chainDeal (h : DealRead id r) (ho : r.operations operation ≠ none) :
    ∃ chainDeal : EscrowContractDeal, chainDeal.status = operation.status ∧
      (chainDeal.status ≠ .empty → contractDealMatchesFund chainDeal r.fund = true) := by
  by_cases hfund : operation = .fund
  · subst hfund
    exact ⟨⟨[], [], [], [], [], 0, [], [], .empty⟩, rfl, fun hne => absurd rfl hne⟩
  · obtain ⟨chainDeal, hmatches⟩ := h.terms operation ho hfund
    exact ⟨{ chainDeal with status := operation.status }, rfl, fun _ => hmatches⟩

/-- What was taken for reverted is reserved and submitted under its hash again. -/
theorem confirms_of_reverted (h : SysRead s) (hr : s.deals id = some r)
    (ho : r.operations operation = some o) (hstate : o.state = .reverted)
    (hhash : o.transactionHash = some (hex n)) (hfate : fate (hex n) = some .succeeded) :
    Confirms fate s ⟨id, operation⟩ (hex n) := by
  have hread := h.read id r hr
  obtain ⟨m, hm, hn, hlt⟩ := (hread.operations operation o ho).hash (by rw [hstate]; exact nofun)
  obtain rfl := hex_injective (Option.some.inj (hhash.symm.trans hm))
  have hlt := hlt (by rw [hstate]; exact nofun)
  have hsome : r.operations operation ≠ none := by
    rw [ho]
    exact nofun
  obtain ⟨chainDeal, hstatus, hmatches⟩ := exists_chainDeal hread hsome
  set t := operation.time r.fund with ht
  have hr₁ := @step_observe _ _ _ t _ h hr hmatches
  have h₁ := h.step ⟨t, .recordEscrowChainDeal id chainDeal⟩
  have hl₁ : Leads fate s _ := .step (a := ⟨t, .recordEscrowChainDeal id chainDeal⟩)
    (consistent_of_silent fun _ _ hsaid => hsaid)
  set s₁ := App20.ChatEscrow.step s ⟨t, .recordEscrowChainDeal id chainDeal⟩ with hs₁
  set r₁ : EscrowDealRecord := { r with
    chainStatus := some chainDeal.status, chainDeal := some chainDeal, updatedAt := t } with hr₁eq
  have hallowed : assertOperationAllowed r₁ operation t = .ok () := by
    refine bind_ok.mpr ⟨(), throwIf_neg ?_, statusAllows (congrArg some hstatus)⟩
    have hsame : r₁.operations operation = some o := ho
    rw [hsame, Option.any_some, hstate]
    exact nofun
  have hr₂ := step_put (a := ⟨t, .claimEscrowOperation id operation⟩) h₁ hr₁
    (step_claim h₁ hr₁ hallowed)
  have h₂ := h₁.step ⟨t, .claimEscrowOperation id operation⟩
  have hl₂ : Leads fate s₁ _ := .step (a := ⟨t, .claimEscrowOperation id operation⟩)
    (consistent_of_silent fun _ _ hsaid => hsaid)
  have hr₃ : (App20.ChatEscrow.step (App20.ChatEscrow.step s₁ ⟨t, .claimEscrowOperation id operation⟩)
      ⟨t, .markEscrowOperationSubmitted id operation (hex n)⟩).deals id = _ :=
    step_submit h₂ hr₂ (isReserved_iff.mpr ⟨_, withOperation_self, rfl⟩) hn
  have hl₃ : Leads fate (App20.ChatEscrow.step s₁ ⟨t, .claimEscrowOperation id operation⟩) _ :=
    .step (a := ⟨t, .markEscrowOperationSubmitted id operation (hex n)⟩)
      (consistent_of_silent fun _ _ hsaid => hsaid)
  exact confirms_of_submitted h (hl₁.trans (hl₂.trans hl₃)) hr₃ withOperation_self rfl rfl hlt hfate

theorem confirms_of_open {hash : Text} (h : SysRead s) (hr : s.deals id = some r)
    (ho : r.operations operation = some o) (hhash : o.transactionHash = some hash)
    (hfate : fate hash = some .succeeded) (hopen : ¬ Stuck o) :
    Confirms fate s ⟨id, operation⟩ hash := by
  have hread := (h.read id r hr).operations operation o ho
  cases hstate : o.state with
  | reserved => cases hhash.symm.trans (hread.reserved hstate)
  | submitted =>
    obtain ⟨n, hn, -, -⟩ := hread.hash (by rw [hstate]; exact nofun)
    obtain rfl := Option.some.inj (hhash.symm.trans hn)
    exact confirms_of_submitted h (.refl s) hr ho hstate hhash (lt_of_not_stuck hopen hstate hhash)
      hfate
  | confirmed => exact ⟨s, .refl s, r, o, hr, ho, hstate, hhash⟩
  | reverted =>
    obtain ⟨n, hn, -, -⟩ := hread.hash (by rw [hstate]; exact nofun)
    obtain rfl := Option.some.inj (hhash.symm.trans hn)
    exact confirms_of_reverted h hr ho hstate hhash hfate
  | unknown => exact absurd (.inl hstate) hopen

/-- An operation has its exits exactly when it is not stuck. One whose transactions reverted must
not have been confirmed either, which only a false report does. -/
theorem exits_iff (fate : Text → Option Fate) (as : List Action) (id : Text)
    (operation : EscrowOperation) :
    let s := run step initial as
    (∀ r now, s.deals id = some r → Payable r operation now →
      AllReverted fate (s.attempts ⟨id, operation⟩) →
      (Retries fate s ⟨id, operation⟩ now ↔
        ∀ o, r.operations operation = some o → ¬ (o.state = .confirmed ∨ Stuck o))) ∧
    ∀ r o hash, s.deals id = some r → r.operations operation = some o →
      o.transactionHash = some hash → fate hash = some .succeeded →
      (Confirms fate s ⟨id, operation⟩ hash ↔ ¬ Stuck o) := by
  intro s
  have h : SysRead s := sysRead_run as
  constructor
  · intro r now hr hpayable hreverted
    refine ⟨fun hretries o ho hkept => ?_, retries_of_open h hr hpayable hreverted⟩
    exact not_retries h hr ho hkept hretries
  · intro r o hash hr ho hhash hfate
    refine ⟨fun hconfirms hstuck => ?_, confirms_of_open h hr ho hhash hfate⟩
    exact not_confirms h hr ho hstuck hconfirms

/-! ## A claim of unknown outcome -/

def legJson (address : String) : Json :=
  .object [("token", .object [("address", .string address.toList), ("symbol", .string "ETH".toList),
    ("decimals", .number 18)]), ("amount", .string "5".toList)]

def fundJson : Json :=
  .object [("dealId", .string "0x1".toList), ("escrowAddress", .string "0x2".toList),
    ("maker", .string "0x3".toList), ("legA", legJson "0x4"), ("legB", legJson "0x5"),
    ("deadline", .number 100), ("ticket", .string "0x6".toList)]

def filledDeal : EscrowContractDeal where
  legAToken := "0x4".toList
  legAAmount := "5".toList
  legBToken := "0x5".toList
  legBTerms := "5".toList
  legBAmount := "5".toList
  deadline := 100
  ticket := "0x6".toList
  claimPubkey := "0x6".toList
  status := .filled

/-- The receipt of a submitted claim did not arrive in time. -/
def unknownClaim : List Action :=
  [⟨1, .recordEscrowFund fundJson⟩, ⟨2, .recordEscrowChainDeal "0x1".toList filledDeal⟩,
    ⟨3, .claimEscrowOperation "0x1".toList .claim⟩,
    ⟨4, .markEscrowOperationSubmitted "0x1".toList .claim "0xabc".toList⟩,
    ⟨5, .markEscrowOperationOutcome "0x1".toList .claim "0xabc".toList .unknown⟩]

def unknownClaimed : Sys := run step initial unknownClaim

theorem unknownClaimed_deal :
    ((unknownClaimed.deals "0x1".toList).any fun r =>
      r.chainStatus = some .filled &&
        r.operations .claim = some ⟨.unknown, some "0xabc".toList, 5⟩) = true := by
  decide +kernel

/-- The claim can neither be tried again once its transaction is known to have reverted, nor be
confirmed once the transaction is known to have succeeded. -/
theorem unknownClaim_stuck :
    (∃ r o, unknownClaimed.deals "0x1".toList = some r ∧ Payable r .claim 6 ∧
      r.operations .claim = some o ∧ o.transactionHash = some "0xabc".toList) ∧
    AllReverted (fun _ => some .reverted) (unknownClaimed.attempts ⟨"0x1".toList, .claim⟩) ∧
    ¬ Retries (fun _ => some .reverted) unknownClaimed ⟨"0x1".toList, .claim⟩ 6 ∧
    ¬ Confirms (fun _ => some .succeeded) unknownClaimed ⟨"0x1".toList, .claim⟩
      "0xabc".toList := by
  have h : SysRead unknownClaimed := sysRead_run unknownClaim
  obtain ⟨r, hr, hstored⟩ := (Option.any_eq_true _ _).mp unknownClaimed_deal
  rw [Bool.and_eq_true, decide_eq_true_eq, decide_eq_true_eq] at hstored
  obtain ⟨hstatus, ho⟩ := hstored
  have hstuck : Stuck ⟨.unknown, some "0xabc".toList, 5⟩ := .inl rfl
  exact ⟨⟨r, _, hr, .inl ⟨rfl, hstatus⟩, ho, rfl⟩, fun _ _ _ _ => rfl,
    not_retries h hr ho (.inr hstuck), not_confirms h hr ho hstuck⟩

end App20.ChatEscrow
