import App20.ChatEscrow.Deals
import App20.Lib.Attempts
import App20.Lib.Run

/-!
# Runs of escrow deals

What holds of the escrow deals in the storage of a mailbox, after any operations. Beside the storage
stand the attempts that were made at each operation of a deal.

* `EscrowMove`: the ways in which an operation changes a deal.
* `DealLawful`: the phase of each operation, and what the chain said of the deal.
* `escrow_deals_lawful`: a new reservation follows attempts that are over, within its time; what was
  confirmed and what was announced stay; the chain's deal is the announced one.
-/

namespace App20.ChatEscrow

open App20.Lib App20.Domain
open App20.Otc (feltEquals)

/-! ## Operations -/

inductive Operation where
  | recordEscrowFund (payload : Json)
  | recordEscrowUpdateClaim (operation : UpdateOperation) (payload : Json)
  | claimEscrowOperation (dealId : Text) (operation : EscrowOperation)
  | markEscrowOperationSubmitted (dealId : Text) (operation : EscrowOperation)
    (transactionHash : Text)
  | confirmEscrowOperation (dealId : Text) (operation : EscrowOperation) (transactionHash : Text)
  | markEscrowOperationOutcome (dealId : Text) (operation : EscrowOperation)
    (transactionHash : Text) (outcome : EscrowOutcome)
  | releaseEscrowOperation (dealId : Text) (operation : EscrowOperation)
  | recordEscrowChainDeal (dealId : Text) (chainDeal : EscrowContractDeal)

/-- An operation at a time. -/
structure Action where
  now : Int
  operation : Operation

def perform (a : Action) (deals : EscrowDeals) : Except String EscrowDeals :=
  match a.operation with
  | .recordEscrowFund payload => recordEscrowFund deals payload a.now
  | .recordEscrowUpdateClaim operation payload =>
    recordEscrowUpdateClaim deals operation payload a.now
  | .claimEscrowOperation dealId operation => claimEscrowOperation deals dealId operation a.now
  | .markEscrowOperationSubmitted dealId operation transactionHash =>
    markEscrowOperationSubmitted deals dealId operation transactionHash a.now
  | .confirmEscrowOperation dealId operation transactionHash =>
    confirmEscrowOperation deals dealId operation transactionHash a.now
  | .markEscrowOperationOutcome dealId operation transactionHash outcome =>
    markEscrowOperationOutcome deals dealId operation transactionHash outcome a.now
  | .releaseEscrowOperation dealId operation =>
    .ok (releaseEscrowOperation deals dealId operation a.now)
  | .recordEscrowChainDeal dealId chainDeal => recordEscrowChainDeal deals dealId chainDeal a.now

abbrev Attempts := List (Attempt Int Text)
abbrev Event := AttemptEvent Int Text

/-- The operation of a deal. -/
structure Task where
  dealId : Text
  operation : EscrowOperation
  deriving DecidableEq

/-- What an operation that does not throw means to the attempts. -/
def eventOf (a : Action) (deals : EscrowDeals) : Option (Task × Event) :=
  match a.operation with
  | .claimEscrowOperation dealId operation =>
    (feltText dealId false).map fun id => (⟨id, operation⟩, .reserved a.now)
  | .markEscrowOperationSubmitted dealId operation transactionHash =>
    match feltText dealId false, feltText transactionHash false with
    | some id, some hash => some (⟨id, operation⟩, .submitted hash)
    | _, _ => none
  | .markEscrowOperationOutcome dealId operation transactionHash .reverted =>
    match feltText dealId false, feltText transactionHash false with
    | some id, some hash => some (⟨id, operation⟩, .ended (.reverted hash))
    | _, _ => none
  | .releaseEscrowOperation dealId operation =>
    match feltText dealId false with
    | some id =>
      if (deals id).any (isReserved · operation) = true then
        some (⟨id, operation⟩, .ended .released)
      else none
    | none => none
  | _ => none

def eventOn (event : Option (Task × Event)) (task : Task) : Option Event :=
  match event with
  | some (t, e) => if t = task then some e else none
  | none => none

def record (attempts : Attempts) : Option Event → Attempts
  | some event => observe attempts event
  | none => attempts

/-- The stored deals, and the attempts at their operations. -/
structure Sys where
  deals : EscrowDeals
  attempts : Task → Attempts

/-- An operation that throws stores nothing. -/
def step (s : Sys) (a : Action) : Sys :=
  match perform a s.deals with
  | .ok deals =>
    ⟨deals, fun task => record (s.attempts task) (eventOn (eventOf a s.deals) task)⟩
  | .error _ => s

def initial : Sys := ⟨fun _ => none, fun _ => []⟩

/-! ## Moves -/

/-- The record of a deal before and after an operation, and what it means to the attempts at the
deal's operations. -/
inductive EscrowMove (id : Text) (now : Int) :
    Option EscrowDealRecord → Option EscrowDealRecord → Option (EscrowOperation × Event) → Prop
  | same {r : Option EscrowDealRecord} : EscrowMove id now r r none
  | announced {fund : EscrowFundPayload} : fund.dealId = id → feltText id false = some id →
    EscrowMove id now none (some (announced fund now)) none
  | hinted {current : EscrowDealRecord} {claims : EscrowOperation → Bool} :
    EscrowMove id now (some current)
      (some { current with counterpartyClaims := claims, updatedAt := now }) none
  | reserved {current : EscrowDealRecord} {operation : EscrowOperation} :
    assertOperationAllowed current operation now = .ok () →
    EscrowMove id now (some current)
      (some (current.withOperation operation (some ⟨.reserved, none, now⟩) now))
      (some (operation, .reserved now))
  | submitted {current : EscrowDealRecord} {operation : EscrowOperation} {n : Nat} :
    isReserved current operation = true → feltText (hex n) false = some (hex n) →
    EscrowMove id now (some current)
      (some (current.withOperation operation (some ⟨.submitted, some (hex n), now⟩) now))
      (some (operation, .submitted (hex n)))
  | kept {current : EscrowDealRecord} {operation : EscrowOperation}
    {state : EscrowOperationState} {n : Nat} :
    state = .confirmed ∨ state = .unknown → matchesSubmitted current operation (hex n) = true →
    EscrowMove id now (some current)
      (some (current.withOperation operation (some ⟨state, some (hex n), now⟩) now)) none
  | reverted {current : EscrowDealRecord} {operation : EscrowOperation} {n : Nat} :
    matchesSubmitted current operation (hex n) = true →
    EscrowMove id now (some current)
      (some (current.withOperation operation (some ⟨.reverted, some (hex n), now⟩) now))
      (some (operation, .ended (.reverted (hex n))))
  | released {current : EscrowDealRecord} {operation : EscrowOperation} :
    isReserved current operation = true →
    EscrowMove id now (some current) (some (current.withOperation operation none now))
      (some (operation, .ended .released))
  | observed {current : EscrowDealRecord} {chainDeal : EscrowContractDeal} :
    (chainDeal.status ≠ .empty → contractDealMatchesFund chainDeal current.fund = true) →
    EscrowMove id now (some current) (some { current with
        chainStatus := some chainDeal.status
        chainDeal := some chainDeal
        updatedAt := now }) none

def eventIn (event : Option (Task × Event)) (id : Text) : Option (EscrowOperation × Event) :=
  match event with
  | some (t, e) => if t.dealId = id then some (t.operation, e) else none
  | none => none

def EscrowMoves (now : Int) (deals deals' : EscrowDeals) (event : Option (Task × Event)) : Prop :=
  ∀ id, EscrowMove id now (deals id) (deals' id) (eventIn event id)

/-- Every record stands under its own id. -/
def Keyed (deals : EscrowDeals) : Prop := ∀ id r, deals id = some r → r.dealId = id

variable {deals deals' : EscrowDeals} {dealId : Text}
variable {operation : EscrowOperation} {now : Int}

variable {id hash transactionHash : Text} {event : Option (EscrowOperation × Event)}
  {payload : Json} {o : Option EscrowOperationRecord} {attempts : EscrowOperation → Attempts}
  {r' : EscrowDealRecord}

theorem EscrowMoves.put {r : EscrowDealRecord} (h : EscrowMove id now (deals id) (some r) event) :
    EscrowMoves now deals (deals.put id r) (event.map fun e => (⟨id, e.1⟩, e.2)) := by
  intro id'
  by_cases hid : id = id'
  · subst hid
    have hevent : eventIn (event.map fun e => ((⟨id, e.1⟩ : Task), e.2)) id = event := by
      cases event with
      | none => rfl
      | some e => exact if_pos rfl
    rw [hevent, EscrowDeals.put, Function.update_self]
    exact h
  · have hevent : eventIn (event.map fun e => ((⟨id, e.1⟩ : Task), e.2)) id' = none := by
      cases event with
      | none => rfl
      | some e => exact if_neg hid
    rw [hevent, EscrowDeals.put, Function.update_of_ne (Ne.symm hid)]
    exact .same

theorem EscrowMoves.same : EscrowMoves now deals deals none := fun _ => .same

theorem feltText_hex {s : Text} {allowZero : Bool} (h : feltText s allowZero = some hash) :
    ∃ n, hash = hex n := by
  unfold feltText at h
  split at h
  · cases h
  · split at h
    · cases h
    · exact ⟨_, (Option.some.inj h).symm⟩

theorem find_eq_some {current : EscrowDealRecord} (hkeyed : Keyed deals)
    (h : deals.find dealId = some current) :
    feltText dealId false = some current.dealId ∧ deals current.dealId = some current := by
  obtain ⟨id, hid, hcurrent⟩ := Option.bind_eq_some_iff.mp h
  obtain rfl := hkeyed id current hcurrent
  exact ⟨hid, hcurrent⟩

/-- A felt that was read is read as itself. -/
theorem feltText_self {s t : Text} {allowZero : Bool} (h : feltText s allowZero = some t) :
    feltText t allowZero = some t := by
  unfold feltText at h
  split at h
  · cases h
  · rename_i n _
    split at h
    · cases h
    · rename_i hrange
      obtain rfl := Option.some.inj h
      have hnat : (n.toNat : Int) = n := Int.toNat_of_nonneg (by omega)
      unfold feltText
      rw [parseBigInt_hex]
      simp only [hnat]
      rw [if_neg hrange]

theorem parseEscrowFundPayload_dealId {fund : EscrowFundPayload}
    (h : parseEscrowFundPayload payload = some fund) :
    feltText fund.dealId false = some fund.dealId := by
  unfold parseEscrowFundPayload at h
  simp only [bind, Option.bind_eq_some_iff, pure, Option.some.injEq] at h
  obtain ⟨_, -, dealId, hid, _, -, _, -, _, -, _, -, _, -, _, -, _, -, _, -, rfl⟩ := h
  unfold parseFelt at hid
  split at hid
  · exact feltText_self hid
  · cases hid

theorem recordEscrowFund_moves (h : recordEscrowFund deals payload now = .ok deals') :
    EscrowMoves now deals deals' none := by
  unfold recordEscrowFund at h
  split at h
  · cases h
  · rename_i fund hparsed
    split at h
    · obtain ⟨_, -, hreturn⟩ := bind_ok.mp h
      obtain rfl := Except.ok.inj hreturn
      exact .same
    · rename_i hnone
      obtain rfl := Except.ok.inj h
      have hmove : EscrowMove fund.dealId now (deals fund.dealId)
          (some (announced fund now)) none := by
        rw [hnone]
        exact .announced rfl (parseEscrowFundPayload_dealId hparsed)
      exact .put hmove

theorem recordEscrowUpdateClaim_moves {update : UpdateOperation}
    (h : recordEscrowUpdateClaim deals update payload now = .ok deals') :
    EscrowMoves now deals deals' none := by
  unfold recordEscrowUpdateClaim at h
  split at h
  · cases h
  · rename_i id escrowAddress _
    split at h
    · cases h
    · rename_i current hcurrent
      obtain ⟨_, -, hreturn⟩ := bind_ok.mp h
      obtain rfl := Except.ok.inj hreturn
      have hmove : EscrowMove id now (deals id) (some { current with
          counterpartyClaims := Function.update current.counterpartyClaims update.operation true
          updatedAt := now }) none := by
        rw [hcurrent]
        exact .hinted
      exact .put hmove

theorem claimEscrowOperation_moves (hkeyed : Keyed deals)
    (h : claimEscrowOperation deals dealId operation now = .ok deals') :
    EscrowMoves now deals deals'
      ((feltText dealId false).map fun id => (⟨id, operation⟩, .reserved now)) := by
  unfold claimEscrowOperation at h
  split at h
  · cases h
  · rename_i current hfind
    obtain ⟨hid, hcurrent⟩ := find_eq_some hkeyed hfind
    obtain ⟨_, hallowed, hreturn⟩ := bind_ok.mp h
    obtain rfl := Except.ok.inj hreturn
    rw [hid]
    have hmove : EscrowMove current.dealId now (deals current.dealId)
        (some (current.withOperation operation (some ⟨.reserved, none, now⟩) now))
        (some (operation, .reserved now)) := by
      rw [hcurrent]
      exact .reserved hallowed
    exact .put hmove

theorem markEscrowOperationSubmitted_moves (hkeyed : Keyed deals)
    (h : markEscrowOperationSubmitted deals dealId operation transactionHash now = .ok deals') :
    EscrowMoves now deals deals'
      (eventOf ⟨now, .markEscrowOperationSubmitted dealId operation transactionHash⟩ deals) := by
  unfold markEscrowOperationSubmitted at h
  split at h
  · rename_i current hash hfind hhash
    obtain ⟨hid, hcurrent⟩ := find_eq_some hkeyed hfind
    obtain ⟨n, rfl⟩ := feltText_hex hhash
    obtain ⟨_, hreserved, hreturn⟩ := bind_ok.mp h
    rw [throwIf_ok, Bool.not_eq_false] at hreserved
    obtain rfl := Except.ok.inj hreturn
    simp only [eventOf, hid, hhash]
    have hmove : EscrowMove current.dealId now (deals current.dealId)
        (some (current.withOperation operation (some ⟨.submitted, some (hex n), now⟩) now))
        (some (operation, .submitted (hex n))) := by
      rw [hcurrent]
      exact .submitted hreserved (feltText_self hhash)
    exact .put hmove
  · cases h

theorem proceed_ok {state : EscrowOperationState} {e : String} (hkeyed : Keyed deals)
    (h : proceed deals dealId operation transactionHash state e now = .ok deals') :
    ∃ current n, feltText dealId false = some current.dealId ∧
      feltText transactionHash false = some (hex n) ∧ deals current.dealId = some current ∧
      matchesSubmitted current operation (hex n) = true ∧ deals' = deals.put current.dealId
        (current.withOperation operation (some ⟨state, some (hex n), now⟩) now) := by
  unfold proceed at h
  split at h
  · rename_i current hash hfind hhash
    obtain ⟨hid, hcurrent⟩ := find_eq_some hkeyed hfind
    obtain ⟨n, rfl⟩ := feltText_hex hhash
    obtain ⟨_, hmatches, hreturn⟩ := bind_ok.mp h
    rw [throwIf_ok, Bool.not_eq_false] at hmatches
    exact ⟨current, n, hid, hhash, hcurrent, hmatches, (Except.ok.inj hreturn).symm⟩
  · cases h

theorem confirmEscrowOperation_moves (hkeyed : Keyed deals)
    (h : confirmEscrowOperation deals dealId operation transactionHash now = .ok deals') :
    EscrowMoves now deals deals' none := by
  obtain ⟨current, n, -, hhash, hcurrent, hmatches, rfl⟩ := proceed_ok hkeyed h
  have hmove : EscrowMove current.dealId now (deals current.dealId)
      (some (current.withOperation operation (some ⟨.confirmed, some (hex n), now⟩) now)) none := by
    rw [hcurrent]
    exact .kept (.inl rfl) hmatches
  exact .put hmove

theorem markEscrowOperationOutcome_moves (hkeyed : Keyed deals) {outcome : EscrowOutcome}
    (h : markEscrowOperationOutcome deals dealId operation transactionHash outcome now =
      .ok deals') :
    EscrowMoves now deals deals'
      (eventOf ⟨now, .markEscrowOperationOutcome dealId operation transactionHash outcome⟩
        deals) := by
  obtain ⟨current, n, hid, hhash, hcurrent, hmatches, rfl⟩ := proceed_ok hkeyed h
  cases outcome with
  | unknown =>
    have hmove : EscrowMove current.dealId now (deals current.dealId)
        (some (current.withOperation operation (some ⟨.unknown, some (hex n), now⟩) now)) none := by
      rw [hcurrent]
      exact .kept (.inr rfl) hmatches
    exact .put hmove
  | reverted =>
    simp only [eventOf, hid, hhash]
    have hmove : EscrowMove current.dealId now (deals current.dealId)
        (some (current.withOperation operation (some ⟨.reverted, some (hex n), now⟩) now))
        (some (operation, .ended (.reverted (hex n)))) := by
      rw [hcurrent]
      exact .reverted hmatches
    exact .put hmove

theorem releaseEscrowOperation_moves (hkeyed : Keyed deals) :
    EscrowMoves now deals (releaseEscrowOperation deals dealId operation now)
      (eventOf ⟨now, .releaseEscrowOperation dealId operation⟩ deals) := by
  simp only [releaseEscrowOperation, eventOf]
  cases hid : feltText dealId false with
  | none =>
    rw [EscrowDeals.find, hid]
    exact .same
  | some id =>
    rw [EscrowDeals.find, hid, Option.bind_some]
    cases hcurrent : deals id with
    | none =>
      simp only [hcurrent, Option.any_none, Bool.false_eq_true, if_false]
      exact .same
    | some current =>
      obtain rfl := hkeyed id current hcurrent
      simp only [hcurrent, Option.any_some]
      by_cases hreserved : isReserved current operation = true
      · rw [if_pos hreserved, if_pos hreserved]
        have hmove : EscrowMove current.dealId now (deals current.dealId)
            (some (current.withOperation operation none now))
            (some (operation, .ended .released)) := by
          rw [hcurrent]
          exact .released hreserved
        exact .put hmove
      · rw [if_neg hreserved, if_neg hreserved]
        exact .same

theorem recordEscrowChainDeal_moves (hkeyed : Keyed deals) {chainDeal : EscrowContractDeal}
    (h : recordEscrowChainDeal deals dealId chainDeal now = .ok deals') :
    EscrowMoves now deals deals' none := by
  unfold recordEscrowChainDeal at h
  split at h
  · cases h
  · rename_i current hfind
    obtain ⟨-, hcurrent⟩ := find_eq_some hkeyed hfind
    obtain ⟨_, hmatches, hreturn⟩ := bind_ok.mp h
    rw [throwIf_ok, not_and, Bool.not_eq_false] at hmatches
    obtain rfl := Except.ok.inj hreturn
    have hmove : EscrowMove current.dealId now (deals current.dealId) (some { current with
        chainStatus := some chainDeal.status
        chainDeal := some chainDeal
        updatedAt := now }) none := by
      rw [hcurrent]
      exact .observed hmatches
    exact .put hmove

theorem perform_moves {a : Action} (hkeyed : Keyed deals) (h : perform a deals = .ok deals') :
    EscrowMoves a.now deals deals' (eventOf a deals) := by
  obtain ⟨now, op⟩ := a
  cases op with
  | recordEscrowFund payload => exact recordEscrowFund_moves h
  | recordEscrowUpdateClaim update payload => exact recordEscrowUpdateClaim_moves h
  | claimEscrowOperation dealId operation => exact claimEscrowOperation_moves hkeyed h
  | markEscrowOperationSubmitted dealId operation transactionHash =>
    exact markEscrowOperationSubmitted_moves hkeyed h
  | confirmEscrowOperation dealId operation transactionHash =>
    exact confirmEscrowOperation_moves hkeyed h
  | markEscrowOperationOutcome dealId operation transactionHash outcome =>
    exact markEscrowOperationOutcome_moves hkeyed h
  | releaseEscrowOperation dealId operation =>
    obtain rfl := Except.ok.inj h
    exact releaseEscrowOperation_moves hkeyed
  | recordEscrowChainDeal dealId chainDeal => exact recordEscrowChainDeal_moves hkeyed h

/-! ## Phases -/

theorem canonicalize_hex {n : Nat} {c : Text} (h : canonicalizeStarknetFelt (hex n) = some c) :
    c = hex n ∧ n < starknetFeltLimit := by
  unfold canonicalizeStarknetFelt at h
  dsimp only at h
  split at h
  · cases h
  split at h
  · cases h
  split at h
  · cases h
  · rename_i hlt
    rw [trim_hex, bigInt_hex] at h hlt
    exact ⟨(Option.some.inj h).symm, not_le.mp hlt⟩

/-- Hashes that are compared as addresses must be below the limit of addresses. -/
theorem feltEquals_hex {m n : Nat} :
    feltEquals (hex m) (hex n) = true ↔ m = n ∧ n < starknetFeltLimit := by
  constructor
  · intro h
    unfold feltEquals starknetFeltEquals at h
    split at h
    · rename_i l r hl hr
      obtain ⟨rfl, -⟩ := canonicalize_hex hl
      obtain ⟨rfl, hlt⟩ := canonicalize_hex hr
      exact ⟨hex_injective (eq_of_beq h), hlt⟩
    · cases h
  · rintro ⟨rfl, hlt⟩
    unfold feltEquals starknetFeltEquals
    rw [canonicalizeStarknetFelt_hex hlt]
    exact beq_self_eq_true _

inductive OperationPhase : Option EscrowOperationRecord → Phase Text → Prop
  | untried : OperationPhase none .idle
  | reverted {o : EscrowOperationRecord} : o.state = .reverted → OperationPhase (some o) .idle
  | reserved {o : EscrowOperationRecord} : o.state = .reserved → OperationPhase (some o) .reserved
  | submitted {o : EscrowOperationRecord} {n : Nat} : o.state = .submitted →
    o.transactionHash = some (hex n) → OperationPhase (some o) (.submitted (hex n))
  | kept {o : EscrowOperationRecord} : o.state = .confirmed ∨ o.state = .unknown →
    OperationPhase (some o) .kept

variable {r current : EscrowDealRecord} {phase : Phase Text}

theorem OperationPhase.of_reserved (h : OperationPhase (r.operations operation) phase)
    (hreserved : isReserved r operation = true) : phase = .reserved := by
  unfold isReserved at hreserved
  generalize r.operations operation = o at h hreserved
  cases h with
  | untried => cases hreserved
  | reserved => rfl
  | reverted hstate | submitted hstate => simp [hstate] at hreserved
  | kept hstate =>
    have hstate' := of_decide_eq_true hreserved
    rw [hstate'] at hstate
    rcases hstate with hstate | hstate <;> cases hstate

theorem matchesSubmitted_iff : matchesSubmitted r operation hash = true ↔
    ∃ o submitted, r.operations operation = some o ∧ o.state = .submitted ∧
      o.transactionHash = some submitted ∧ submitted ≠ [] ∧ feltEquals submitted hash = true := by
  unfold matchesSubmitted
  constructor
  · intro h
    obtain ⟨o, ho, hmatches⟩ := (Option.any_eq_true _ _).mp h
    rw [Bool.and_eq_true] at hmatches
    obtain ⟨submitted, hsubmitted, hboth⟩ := (Option.any_eq_true _ _).mp hmatches.2
    rw [Bool.and_eq_true] at hboth
    exact ⟨o, submitted, ho, of_decide_eq_true hmatches.1, hsubmitted,
      of_decide_eq_true hboth.1, hboth.2⟩
  · rintro ⟨o, submitted, ho, hstate, hsubmitted, hne, hequal⟩
    simp [ho, hstate, hsubmitted, hne, hequal]

theorem OperationPhase.of_matchesSubmitted {n : Nat}
    (h : OperationPhase (r.operations operation) phase)
    (hmatches : matchesSubmitted r operation (hex n) = true) : phase = .submitted (hex n) := by
  obtain ⟨o, submitted, ho, hstate, hsubmitted, -, hequal⟩ := matchesSubmitted_iff.mp hmatches
  rw [ho] at h
  cases h with
  | reverted hother | reserved hother => cases hstate.symm.trans hother
  | submitted _ hhash =>
    cases hsubmitted.symm.trans hhash
    rw [(feltEquals_hex.mp hequal).1]
  | kept hother =>
    rw [hstate] at hother
    rcases hother with hother | hother <;> cases hother

theorem assertOperationAllowed_ok {u : Unit} (h : assertOperationAllowed r operation now = .ok u) :
    (r.operations operation).any (fun prior => prior.state ≠ .reverted) = false ∧
      assertStatusAllows r operation now = .ok () := by
  obtain ⟨_, hprior, hstatus⟩ := bind_ok.mp h
  rw [throwIf_ok, Bool.not_eq_true] at hprior
  exact ⟨hprior, hstatus⟩

theorem OperationPhase.of_allowed (h : OperationPhase (r.operations operation) phase)
    (hallowed : (r.operations operation).any (fun prior => prior.state ≠ .reverted) = false) :
    phase = .idle := by
  generalize r.operations operation = o at h hallowed
  cases h with
  | untried | reverted => rfl
  | reserved hstate | submitted hstate => simp [hstate] at hallowed
  | kept hstate => rcases hstate with hstate | hstate <;> simp [hstate] at hallowed

/-! ## Lawful deals -/

/-- What the chain said of the deal, if it said anything but that there is none. -/
def ChainMatches (r : EscrowDealRecord) : Prop :=
  ∀ status, r.chainStatus = some status → status ≠ .empty →
    ∃ chainDeal, r.chainDeal = some chainDeal ∧ chainDeal.status = status ∧
      contractDealMatchesFund chainDeal r.fund = true

def SameHash (a b : Text) : Bool := a == b

structure DealLawful (r : EscrowDealRecord) (attempts : EscrowOperation → Attempts) : Prop where
  phases : ∀ operation, ∃ phase, OperationPhase (r.operations operation) phase ∧
    Tracks SameHash (attempts operation) phase
  chain : ChainMatches r

/-- Without a record, nothing was tried. -/
def DealInv (r : Option EscrowDealRecord) (attempts : EscrowOperation → Attempts) : Prop :=
  match r with
  | none => ∀ operation, attempts operation = []
  | some r => DealLawful r attempts

def recordIn (attempts : EscrowOperation → Attempts) (event : Option (EscrowOperation × Event))
    (operation : EscrowOperation) : Attempts :=
  match event with
  | some (o, e) => if o = operation then observe (attempts operation) e else attempts operation
  | none => attempts operation

theorem withOperation_self : (current.withOperation operation o now).operations operation = o :=
  Function.update_self _ _ _

theorem withOperation_other {other : EscrowOperation} (h : other ≠ operation) :
    (current.withOperation operation o now).operations other = current.operations other :=
  Function.update_of_ne h _ _

/-- A move of one operation leaves the others. -/
theorem DealLawful.withOperation (h : DealLawful current attempts)
    (hevent : ∀ e, event = some e → e.1 = operation) (hself : ∃ phase, OperationPhase o phase ∧
      Tracks SameHash (recordIn attempts event operation) phase) :
    DealLawful (current.withOperation operation o now) (recordIn attempts event) := by
  refine ⟨fun other => ?_, h.chain⟩
  by_cases hother : other = operation
  · subst hother
    rw [withOperation_self]
    exact hself
  · rw [withOperation_other hother]
    have hsame : recordIn attempts event other = attempts other := by
      cases event with
      | none => rfl
      | some e =>
        obtain ⟨o', e'⟩ := e
        obtain rfl := hevent _ rfl
        exact if_neg (Ne.symm hother)
    rw [hsame]
    exact h.phases other

theorem DealInv.move {r r' : Option EscrowDealRecord} (h : DealInv r attempts)
    (hmove : EscrowMove id now r r' event) : DealInv r' (recordIn attempts event) := by
  cases hmove with
  | same => exact h
  | announced =>
    refine ⟨fun operation => ⟨.idle, .untried, ?_⟩, nofun⟩
    have hnone : recordIn attempts none operation = [] := h operation
    rw [hnone]
    exact fun x hx => (List.not_mem_nil hx).elim
  | hinted => exact ⟨h.phases, h.chain⟩
  | observed hmatches =>
    refine ⟨h.phases, fun status hstatus hne => ?_⟩
    cases hstatus
    exact ⟨_, rfl, rfl, hmatches hne⟩
  | @reserved _ operation hallowed =>
    obtain ⟨phase, hphase, htracks⟩ := h.phases operation
    obtain rfl := hphase.of_allowed (assertOperationAllowed_ok hallowed).1
    refine DealLawful.withOperation h (fun e he => by cases he; rfl) ⟨.reserved, .reserved rfl, ?_⟩
    rw [recordIn, if_pos rfl]
    exact htracks.reserve _
  | @submitted _ operation n hreserved _ =>
    obtain ⟨phase, hphase, htracks⟩ := h.phases operation
    obtain rfl := hphase.of_reserved hreserved
    refine DealLawful.withOperation h (fun e he => by cases he; rfl)
      ⟨.submitted (hex n), .submitted rfl rfl, ?_⟩
    rw [recordIn, if_pos rfl]
    exact htracks.submit _
  | @kept _ operation state n hstate hmatches =>
    obtain ⟨phase, hphase, htracks⟩ := h.phases operation
    obtain rfl := hphase.of_matchesSubmitted hmatches
    exact DealLawful.withOperation h (fun e he => by cases he)
      ⟨.kept, .kept hstate, htracks.keep_submitted⟩
  | @reverted _ operation n hmatches =>
    obtain ⟨phase, hphase, htracks⟩ := h.phases operation
    obtain rfl := hphase.of_matchesSubmitted hmatches
    refine DealLawful.withOperation h (fun e he => by cases he; rfl) ⟨.idle, .reverted rfl, ?_⟩
    rw [recordIn, if_pos rfl]
    exact htracks.revert (beq_self_eq_true _)
  | @released _ operation hreserved =>
    obtain ⟨phase, hphase, htracks⟩ := h.phases operation
    obtain rfl := hphase.of_reserved hreserved
    refine DealLawful.withOperation h (fun e he => by cases he; rfl) ⟨.idle, .untried, ?_⟩
    rw [recordIn, if_pos rfl]
    exact htracks.release

/-! ## Runs -/

structure SysLawful (s : Sys) : Prop where
  keyed : Keyed s.deals
  deals : ∀ id, DealInv (s.deals id) fun operation => s.attempts ⟨id, operation⟩

theorem deal_moves {s : Sys} (hkeyed : Keyed s.deals) (a : Action) (id : Text) :
    ∃ event, EscrowMove id a.now (s.deals id) ((step s a).deals id) event ∧
      ∀ operation, (step s a).attempts ⟨id, operation⟩ =
        recordIn (fun operation => s.attempts ⟨id, operation⟩) event operation := by
  unfold step
  split
  · rename_i deals hperform
    refine ⟨_, perform_moves hkeyed hperform id, fun operation => ?_⟩
    rcases heq : eventOf a s.deals with _ | ⟨⟨dealId, o⟩, e⟩
    · rfl
    · by_cases hid : dealId = id
      · subst hid
        by_cases ho : o = operation
        · subst ho
          simp only [eventOn, eventIn, recordIn, record, if_true]
        · have hne : (⟨dealId, o⟩ : Task) ≠ ⟨dealId, operation⟩ := fun h => ho (Task.mk.inj h).2
          simp only [eventOn, eventIn, recordIn, record, if_true, if_neg hne, if_neg ho]
      · have hne : (⟨dealId, o⟩ : Task) ≠ ⟨id, operation⟩ := fun h => hid (Task.mk.inj h).1
        simp only [eventOn, eventIn, recordIn, record, if_neg hne, if_neg hid]
  · exact ⟨none, .same, fun _ => rfl⟩

theorem EscrowMove.isSome {r : EscrowDealRecord} {r' : Option EscrowDealRecord}
    (h : EscrowMove id now (some r) r' event) : ∃ r₁, r' = some r₁ := by
  cases h <;> exact ⟨_, rfl⟩

theorem EscrowMove.keyed {r : Option EscrowDealRecord} (hr : ∀ r₀, r = some r₀ → r₀.dealId = id)
    (h : EscrowMove id now r (some r') event) : r'.dealId = id := by
  cases r with
  | none =>
    cases h with
    | announced hid => exact hid
  | some r₀ =>
    have hsame : r'.dealId = r₀.dealId := by cases h <;> rfl
    exact hsame.trans (hr r₀ rfl)

theorem SysLawful.step {s : Sys} (h : SysLawful s) (a : Action) : SysLawful (step s a) := by
  constructor
  · intro id r hr
    obtain ⟨event, hmove, -⟩ := deal_moves h.keyed a id
    rw [hr] at hmove
    exact hmove.keyed (h.keyed id)
  · intro id
    obtain ⟨event, hmove, hattempts⟩ := deal_moves h.keyed a id
    rw [funext hattempts]
    exact (h.deals id).move hmove

theorem sysLawful_initial : SysLawful initial := ⟨fun _ _ h => (nomatch h), fun _ _ => rfl⟩

theorem sysLawful_run (as : List Action) : SysLawful (run step initial as) :=
  run_invariant (fun _ a h => h.step a) as sysLawful_initial

/-! ## What stays -/

/-- The announcement stays, and so does every operation that was confirmed. -/
structure DealKept (r r' : EscrowDealRecord) : Prop where
  fund : r'.fund = r.fund
  confirmed : ∀ operation o, r.operations operation = some o → o.state = .confirmed →
    r'.operations operation = some o

theorem DealKept.refl (r : EscrowDealRecord) : DealKept r r := ⟨rfl, fun _ _ ho _ => ho⟩

theorem DealKept.trans {r r'' : EscrowDealRecord} (h : DealKept r r') (h' : DealKept r' r'') :
    DealKept r r'' :=
  ⟨h'.fund.trans h.fund, fun operation o ho hstate =>
    h'.confirmed operation o (h.confirmed operation o ho hstate) hstate⟩

theorem DealKept.withOperation
    (h : ∀ prior, current.operations operation = some prior → prior.state ≠ .confirmed) :
    DealKept current (current.withOperation operation o now) := by
  refine ⟨rfl, fun other prior hprior hstate => ?_⟩
  by_cases hother : other = operation
  · subst hother
    exact absurd hstate (h prior hprior)
  · rw [withOperation_other hother]
    exact hprior

theorem not_confirmed_of_reserved (h : isReserved r operation = true) :
    ∀ prior, r.operations operation = some prior → prior.state ≠ .confirmed := by
  intro prior hprior hstate
  simp [isReserved, hprior, hstate] at h

theorem not_confirmed_of_matches (h : matchesSubmitted r operation hash = true) :
    ∀ prior, r.operations operation = some prior → prior.state ≠ .confirmed := by
  intro prior hprior hstate
  obtain ⟨o, -, ho, hsubmitted, -⟩ := matchesSubmitted_iff.mp h
  cases ho.symm.trans hprior
  cases hsubmitted.symm.trans hstate

theorem deal_kept {r : EscrowDealRecord} (h : EscrowMove id now (some r) (some r') event) :
    DealKept r r' := by
  cases h with
  | same => exact .refl _
  | hinted | observed => exact ⟨rfl, fun _ _ ho _ => ho⟩
  | reserved hallowed =>
    refine .withOperation fun prior hprior hstate => ?_
    have hany := (assertOperationAllowed_ok hallowed).1
    simp [hprior, hstate] at hany
  | submitted hreserved _ | released hreserved =>
    exact .withOperation (not_confirmed_of_reserved hreserved)
  | kept _ hmatches | reverted hmatches => exact .withOperation (not_confirmed_of_matches hmatches)

theorem deal_kept_run {s : Sys} (h : SysLawful s) (as : List Action) {r : EscrowDealRecord}
    (hr : s.deals id = some r) : ∃ r', (run step s as).deals id = some r' ∧ DealKept r r' := by
  induction as generalizing s r with
  | nil => exact ⟨r, hr, .refl r⟩
  | cons a as ih =>
    obtain ⟨event, hmove, -⟩ := deal_moves h.keyed a id
    rw [hr] at hmove
    obtain ⟨r₁, hr₁⟩ := hmove.isSome
    rw [hr₁] at hmove
    obtain ⟨r', hr', hkept⟩ := ih (h.step a) hr₁
    exact ⟨r', hr', (deal_kept hmove).trans hkept⟩

/-! ## Reservations -/

def NewlyReserved (before : Option EscrowDealRecord) (r' : EscrowDealRecord)
    (operation : EscrowOperation) : Prop :=
  (∃ o, r'.operations operation = some o ∧ o.state = .reserved) ∧
    (before.bind fun r => r.operations operation) ≠ r'.operations operation

/-- A fill is reserved before the deadline, a timeout at the deadline or later. -/
def InTime (fund : EscrowFundPayload) (operation : EscrowOperation) (now : Int) : Prop :=
  (operation = .fill → now < fund.deadline) ∧ (operation = .timeout → fund.deadline ≤ now)

theorem inTime_of_allowed (h : assertOperationAllowed r operation now = .ok ()) :
    InTime r.fund operation now := by
  have hstatus := (assertOperationAllowed_ok h).2
  refine ⟨?_, ?_⟩
  · rintro rfl
    obtain ⟨_, -, htime⟩ := bind_ok.mp hstatus
    rw [throwIf_ok] at htime
    omega
  · rintro rfl
    obtain ⟨_, -, htime⟩ := bind_ok.mp hstatus
    rw [throwIf_ok] at htime
    omega

theorem newlyReserved_withOperation {other : EscrowOperation}
    (h : NewlyReserved (some current) (current.withOperation operation o now) other) :
    other = operation ∧ ∃ o', o = some o' ∧ o'.state = .reserved := by
  by_cases hother : other = operation
  · subst hother
    have hreserved := h.1
    rw [withOperation_self] at hreserved
    exact ⟨rfl, hreserved⟩
  · exact absurd (withOperation_other hother).symm h.2

theorem DealInv.reserves {before : Option EscrowDealRecord} (h : DealInv before attempts)
    (hmove : EscrowMove id now before (some r') event) (hnew : NewlyReserved before r' operation) :
    recordIn attempts event operation = ⟨now, none, none⟩ :: attempts operation ∧
      (∀ x ∈ attempts operation, x.Over SameHash) ∧ InTime r'.fund operation now := by
  cases hmove with
  | same | announced | hinted | observed => exact absurd rfl hnew.2
  | @reserved current o hallowed =>
    obtain ⟨rfl, -⟩ := newlyReserved_withOperation hnew
    obtain ⟨phase, hphase, htracks⟩ := h.phases operation
    obtain rfl := hphase.of_allowed (assertOperationAllowed_ok hallowed).1
    refine ⟨?_, htracks, inTime_of_allowed (r := current) hallowed⟩
    rw [recordIn, if_pos rfl]
    rfl
  | submitted | reverted =>
    obtain ⟨-, o', heq, hstate⟩ := newlyReserved_withOperation hnew
    cases heq
    cases hstate
  | kept hstates =>
    obtain ⟨-, o', heq, hstate⟩ := newlyReserved_withOperation hnew
    cases heq
    subst hstate
    rcases hstates with hstates | hstates <;> cases hstates
  | released =>
    obtain ⟨-, o', heq, -⟩ := newlyReserved_withOperation hnew
    cases heq

theorem escrow_deals_lawful (as bs : List Action) (a : Action) (id : Text) :
    let s := run step initial as
    (∀ r' operation, (step s a).deals id = some r' → NewlyReserved (s.deals id) r' operation →
      (step s a).attempts ⟨id, operation⟩ = ⟨a.now, none, none⟩ :: s.attempts ⟨id, operation⟩ ∧
        (∀ x ∈ s.attempts ⟨id, operation⟩, x.Over SameHash) ∧ InTime r'.fund operation a.now) ∧
    ∀ r, s.deals id = some r → ChainMatches r ∧
      ∃ r', (run step s bs).deals id = some r' ∧ DealKept r r' := by
  intro s
  have hlawful : SysLawful s := sysLawful_run as
  refine ⟨fun r' operation hr' hnew => ?_, fun r hr => ?_⟩
  · obtain ⟨event, hmove, hattempts⟩ := deal_moves hlawful.keyed a id
    rw [hattempts]
    rw [hr'] at hmove
    exact (hlawful.deals id).reserves hmove hnew
  · have hinv := hlawful.deals id
    rw [hr] at hinv
    exact ⟨hinv.chain, deal_kept_run hlawful bs hr⟩

end App20.ChatEscrow
