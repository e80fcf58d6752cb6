import App20.Escrow.Custody

/-!
# Payouts cannot be blocked

A payout is due when the status, the time and the flags of its deal or lock allow it. The pool
sends one unit of the ticket and invokes the payout: this goes through exactly when the escrow
holds what its books say of the ticket and of the paid token.
-/

namespace App20.Escrow

open App20.Lib App20.Lib.Exec App20.Starknet

variable {C : Chain} {D : Deployment C.erc20}

/-! ## What is due -/

/-- The ticket to be redeemed, and what it is redeemed for. -/
structure Payout where
  ticket : ContractAddress
  token : ContractAddress
  amount : U128
  deriving DecidableEq

def Payout.deposits (p : Payout) (noteId : Felt) : List OpenNoteDeposit :=
  if p.amount = 0 then [] else [⟨noteId, p.token, p.amount⟩]

def due (s : Storage) (now : U64) (id : Felt) : EscrowOperation → Option Payout
  | .claim =>
    if (s.deals id).status = .filled then
      some ⟨(s.deals id).ticket, (s.deals id).legBToken, (s.deals id).legBAmount⟩
    else none
  | .timeout =>
    if (s.deals id).status = .funded ∧ (s.deals id).deadline.val ≤ now.val then
      some ⟨(s.deals id).ticket, (s.deals id).legAToken, (s.deals id).legAAmount⟩
    else none
  | .settleProceeds =>
    if (s.locks id).status = .opened ∧ (s.locks id).expiry.val ≤ now.val ∧
        (s.locks id).proceedsSettled = false then
      some ⟨(s.locks id).ticket, (s.locks id).tokenA, (s.locks id).earnedA⟩
    else none
  | .releaseCollateral =>
    if (s.locks id).status = .opened ∧ (s.locks id).expiry.val ≤ now.val ∧
        (s.locks id).collateralReleased = false then
      some ⟨(s.locks id).ticket, (s.locks id).tokenB, (s.locks id).remainingB⟩
    else none
  | _ => none

/-! ## Calls that go through -/

variable {pool caller : ContractAddress}

section Forward

variable {w : World Erc20} {kind : TicketKind} {id : Felt} {ticket token : ContractAddress}
  {minted : Bool} {supply : Nat} {accounted : U256} {amount : U128}

section

variable (hown : OwnTicket D w kind id ticket minted supply)
  (hsound : ∀ a k t, w a = some (.ticket k t) → t.Sound k)

include hown hsound

theorem OwnTicket.send (hpool : 1 ≤ w.balance ticket D.pool) :
    ∃ w', World.call C.erc20.code D.pool ticket (.transfer C.escrow 1) w = some (true, w') ∧
      w'.balance ticket C.escrow = w.balance ticket C.escrow + 1 ∧
      ∀ token, token ≠ ticket → w'.balance token C.escrow = w.balance token C.escrow := by
  obtain ⟨t, hw, hescrow, hpool', -⟩ := hown
  have hself : t.escrow = C.escrow := hescrow
  have hne : t.escrow ≠ t.pool := by
    rw [hself, hpool']
    exact D.pool_ne.symm
  rw [World.balance_some hw] at hpool
  obtain ⟨t', hcall⟩ := (hsound _ _ _ hw).send hne (by rw [hpool']; exact hpool)
  rw [hself, hpool'] at hcall
  refine ⟨_, World.call_ticket hw hcall, ?_, fun token htoken => ?_⟩
  · have hmoved := ticket_called hcall
    cases hmoved with
    | transfer _ _ hmove =>
      have hval := move_val hmove C.escrow
      have hne' : C.escrow ≠ D.pool := D.pool_ne.symm
      rw [if_neg hne', if_pos rfl] at hval
      rw [World.balance_update, if_pos rfl, World.balance_some hw]
      exact hval
  · rw [World.balance_update, if_neg htoken]

/-- The burn of a payout needs exactly one unit beyond the accounted ones. -/
theorem OwnTicket.burned_iff :
    (∃ w', Burned C.erc20.platform accounted ticket w w') ↔
      w.balance ticket C.escrow = accounted.val + 1 := by
  constructor
  · rintro ⟨w', hburned⟩
    obtain ⟨hheld, hexact, -⟩ := burned_eq hown hburned
    rw [hheld, hexact]
  · intro hheld
    have hown' := hown
    obtain ⟨t, hw, hescrow, hpool, -⟩ := hown'
    have hself : t.escrow = C.escrow := hescrow
    have hne : t.escrow ≠ t.pool := by
      rw [hself, hpool]
      exact D.pool_ne.symm
    have hbalance : w.balance ticket C.escrow = (t.balances C.escrow).val := World.balance_some hw
    obtain ⟨t', hcall⟩ := (hsound _ _ _ hw).burn hne (by rw [hself]; omega)
    rw [hself] at hcall
    have hburn : C.erc20.platform.burn ticket w =
        some (Function.update w ticket (some (.ticket kind t'))) :=
      congrArg (Option.map Prod.snd) (World.call_ticket hw hcall)
    obtain ⟨hafter, -⟩ := hown.burn_balance hburn
    have hw' : Function.update w ticket (some (.ticket kind t')) ticket =
        some (.ticket kind t') := Function.update_self _ _ _
    have hexact : t'.balances C.escrow = accounted := by
      rw [World.balance_some hw'] at hafter
      exact Fin.ext (by
        change _ = (t'.balances C.escrow).val + 1 at hafter
        omega)
    have hread : C.erc20.platform.balanceOf ticket C.escrow
        (Function.update w ticket (some (.ticket kind t'))) = some (t'.balances C.escrow, _) :=
      World.balanceOf_some hw'
    rw [hexact] at hread
    exact ⟨_, t.balances C.escrow, w, _, World.balanceOf_some hw, hbalance.symm.trans hheld, hburn,
      hread⟩

end

/-- A payment of something needs the escrow to hold what its books say. -/
theorem paid_approved_iff (hsound : ∀ a k t, w a = some (.ticket k t) → t.Sound k)
    (hpos : 0 < amount.val) (hle : amount.val ≤ accounted.val) :
    (∃ after w1 w2, Paid C.erc20.platform accounted token amount after w w1 ∧
      C.erc20.platform.approve token pool (into amount) w1 = some (true, w2)) ↔
      accounted.val ≤ w.balance token C.escrow := by
  constructor
  · rintro ⟨after, w1, w2, hpaid, -⟩
    exact (paid_eq hpaid).2.1
  · intro hcovered
    cases hw : w token with
    | none =>
      rw [World.balance_none hw] at hcovered
      omega
    | some c =>
      rw [World.balance_some hw] at hcovered
      have hpaid : Paid C.erc20.platform accounted token amount
          ⟨accounted.val - amount.val, by omega⟩ w w :=
        ⟨c.balances C.escrow, World.balanceOf_some hw, hcovered, by dsimp only; omega⟩
      cases c with
      | ticket kind t =>
        have hheld : 0 < (t.balances C.escrow).val :=
          (by omega : 0 < accounted.val).trans_le hcovered
        obtain ⟨t', hcall⟩ := (hsound _ _ _ hw).approve hheld
        exact ⟨_, w, _, hpaid, World.call_ticket hw hcall⟩
      | other e =>
        refine ⟨_, w, Function.update w token
          (some (.other (e.approve C.escrow pool (into amount)))), hpaid, ?_⟩
        change World.call _ _ _ _ _ = _
        unfold World.call
        rw [hw]
        rfl

section

variable (hown : OwnTicket D w kind id ticket minted supply)
  (hsound : ∀ a k t, w a = some (.ticket k t) → t.Sound k) {accountedToken : U256}
  (hsame : token = ticket → accountedToken = accounted)

include hown hsound hsame

/-- The calls of a payout into the other contracts: a burn, and a payment of something. -/
theorem redeem_iff (hpos : 0 < amount.val) (hle : amount.val ≤ accountedToken.val)
    (pool : ContractAddress) :
    (∃ after w1 w2 w3, Burned C.erc20.platform accounted ticket w w1 ∧
      Paid C.erc20.platform accountedToken token amount after w1 w2 ∧
      C.erc20.platform.approve token pool (into amount) w2 = some (true, w3)) ↔
      w.balance ticket C.escrow = accounted.val + 1 ∧
      (token ≠ ticket → accountedToken.val ≤ w.balance token C.escrow) := by
  constructor
  · rintro ⟨after, w1, w2, w3, hburned, hpaid, -⟩
    obtain ⟨hheld, hexact, hrest, -⟩ := burned_eq hown hburned
    refine ⟨by rw [hheld, hexact], fun hne => ?_⟩
    rw [← hrest token hne]
    exact (paid_eq hpaid).2.1
  · rintro ⟨hheld, hcovered⟩
    obtain ⟨w1, hburned⟩ := (hown.burned_iff hsound).mpr hheld
    obtain ⟨-, hexact, hrest, -⟩ := burned_eq hown hburned
    obtain ⟨left, -, -, -, haffects⟩ := hown.burned hburned
    have hcovered' : accountedToken.val ≤ w1.balance token C.escrow := by
      by_cases hne : token = ticket
      · rw [hne, hexact, hsame hne]
      · rw [hrest token hne]
        exact hcovered hne
    obtain ⟨after, w2, w3, hpaid, happroved⟩ :=
      (paid_approved_iff (haffects.sound hsound) hpos hle).mpr hcovered'
    exact ⟨after, w1, w2, w3, hburned, hpaid, happroved⟩

/-- The same for the payout of a lock, which may be of nothing. -/
theorem redeemPositive_iff (hle : amount.val ≤ accountedToken.val) (pool : ContractAddress) :
    (∃ after w1 w2, Burned C.erc20.platform accounted ticket w w1 ∧
      PaidPositive C.erc20.platform accountedToken token pool amount after w1 w2) ↔
      w.balance ticket C.escrow = accounted.val + 1 ∧
      (0 < amount.val → token ≠ ticket → accountedToken.val ≤ w.balance token C.escrow) := by
  by_cases hpos : 0 < amount.val
  · have hiff := redeem_iff hown hsound hsame hpos hle pool
    constructor
    · rintro ⟨after, w1, w2, hburned, hpaid⟩
      rcases hpaid with ⟨-, w2', hpaid, happroved⟩ | ⟨hzero, -⟩
      · obtain ⟨hheld, hcovered⟩ := hiff.mp ⟨after, w1, w2', w2, hburned, hpaid, happroved⟩
        exact ⟨hheld, fun _ => hcovered⟩
      · omega
    · rintro ⟨hheld, hcovered⟩
      obtain ⟨after, w1, w2, w3, hburned, hpaid, happroved⟩ := hiff.mpr ⟨hheld, hcovered hpos⟩
      exact ⟨after, w1, w3, hburned, Or.inl ⟨hpos, w2, hpaid, happroved⟩⟩
  · have hzero : amount.val = 0 := by omega
    constructor
    · rintro ⟨after, w1, w2, hburned, -⟩
      exact ⟨(hown.burned_iff hsound).mp ⟨w1, hburned⟩, fun h => absurd h hpos⟩
    · rintro ⟨hheld, -⟩
      obtain ⟨w1, hburned⟩ := (hown.burned_iff hsound).mpr hheld
      exact ⟨accountedToken, w1, w1, hburned, Or.inr ⟨hzero, rfl, rfl⟩⟩

end

end Forward

/-! ## The call of a payout -/

section Calls

variable {s : Sys (World Erc20)} {hash id noteId : Felt} {poolAddress : ContractAddress}
  {p : Payout}

/-- The conditions on the world under which the call of a payout returns. -/
def Redeemable (C : Chain) (s : State (World Erc20)) (p : Payout) : Prop :=
  s.world.balance p.ticket C.escrow = (s.storage.accounted p.ticket).val + 1 ∧
  (0 < p.amount.val → p.token ≠ p.ticket →
    (s.storage.accounted p.token).val ≤ s.world.balance p.token C.escrow)

theorem Payout.deposits_pos {p : Payout} (h : 0 < p.amount.val) (noteId : Felt) :
    p.deposits noteId = [⟨noteId, p.token, p.amount⟩] :=
  if_neg fun hzero => by rw [hzero] at h; exact absurd h (by decide)

theorem claim_iff (h : Steady D s) (hdue : due s.state.storage s.now id .claim = some p) :
    (∃ t, Returns (claim C.erc20.platform id noteId pool) s.state (p.deposits noteId) t) ↔
      Redeemable C s.state p := by
  simp only [due, Option.ite_none_right_eq_some, Option.some.injEq] at hdue
  obtain ⟨hfilled, rfl⟩ := hdue
  have hpos := (h.sound.booked.deals id).legB_pos hfilled
  have hle := dealOwes_le h.sound.booked id (s.state.storage.deals id).legBToken
  rw [dealOwes_legB hfilled, if_pos rfl] at hle
  have hown := h.tickets.deal_own id (by rw [hfilled]; simp)
  have hiff := redeem_iff hown h.tickets.sound (congrArg s.state.storage.accounted) hpos hle pool
  rw [Payout.deposits_pos hpos]
  constructor
  · rintro ⟨t, hret⟩
    obtain ⟨after, w1, w2, run⟩ := returns_claim.mp hret
    obtain ⟨hheld, hcovered⟩ := hiff.mp ⟨after, w1, w2, _, run.burned, run.paid, run.approved⟩
    exact ⟨hheld, fun _ => hcovered⟩
  · rintro ⟨hheld, hcovered⟩
    obtain ⟨after, w1, w2, w3, hburned, hpaid, happroved⟩ := hiff.mpr ⟨hheld, hcovered hpos⟩
    exact ⟨⟨_, w3, _⟩, returns_claim.mpr
      ⟨after, w1, w2, ⟨hfilled, hburned, hpaid, happroved, rfl, rfl, rfl⟩⟩⟩

theorem timeout_iff (h : Steady D s) (hdue : due s.state.storage s.now id .timeout = some p) :
    (∃ t, Returns (timeout C.erc20.platform ⟨caller, s.now, hash⟩ id noteId pool) s.state
      (p.deposits noteId) t) ↔ Redeemable C s.state p := by
  simp only [due, Option.ite_none_right_eq_some, Option.some.injEq] at hdue
  obtain ⟨⟨hfunded, hexpired⟩, rfl⟩ := hdue
  have hpos := ((h.sound.booked.deals id).terms_pos hfunded).1
  have hle := dealOwes_le h.sound.booked id (s.state.storage.deals id).legAToken
  rw [dealOwes_legA hfunded, if_pos rfl] at hle
  have hown := h.tickets.deal_own id (by rw [hfunded]; simp)
  have hiff := redeem_iff hown h.tickets.sound (congrArg s.state.storage.accounted) hpos hle pool
  rw [Payout.deposits_pos hpos]
  constructor
  · rintro ⟨t, hret⟩
    obtain ⟨after, w1, w2, run⟩ := returns_timeout.mp hret
    obtain ⟨hheld, hcovered⟩ := hiff.mp ⟨after, w1, w2, _, run.burned, run.paid, run.approved⟩
    exact ⟨hheld, fun _ => hcovered⟩
  · rintro ⟨hheld, hcovered⟩
    obtain ⟨after, w1, w2, w3, hburned, hpaid, happroved⟩ := hiff.mpr ⟨hheld, hcovered hpos⟩
    exact ⟨⟨_, w3, _⟩, returns_timeout.mpr
      ⟨after, w1, w2, ⟨hfunded, hexpired, hburned, hpaid, happroved, rfl, rfl, rfl⟩⟩⟩

theorem settleProceeds_iff (h : Steady D s)
    (hdue : due s.state.storage s.now id .settleProceeds = some p) :
    (∃ t, Returns (settleProceeds C.erc20.platform ⟨caller, s.now, hash⟩ id noteId pool) s.state
      (p.deposits noteId) t) ↔ Redeemable C s.state p := by
  simp only [due, Option.ite_none_right_eq_some, Option.some.injEq] at hdue
  obtain ⟨⟨hopened, hexpired, hunsettled⟩, rfl⟩ := hdue
  have hle := earnedA_le h.sound.booked hunsettled
  have hown := h.tickets.lock_own id (by rw [hopened]; simp)
  have hiff := redeemPositive_iff hown h.tickets.sound (congrArg s.state.storage.accounted) hle pool
  constructor
  · rintro ⟨t, hret⟩
    obtain ⟨after, w1, run⟩ := returns_settleProceeds.mp hret
    exact hiff.mp ⟨after, w1, _, run.burned, run.paid⟩
  · intro hredeemable
    obtain ⟨after, w1, w2, hburned, hpaid⟩ := hiff.mpr hredeemable
    exact ⟨⟨_, w2, _⟩, returns_settleProceeds.mpr
      ⟨after, w1, ⟨hunsettled, hopened, hexpired, hburned, hpaid, rfl, rfl, rfl⟩⟩⟩

theorem releaseCollateral_iff (h : Steady D s)
    (hdue : due s.state.storage s.now id .releaseCollateral = some p) :
    (∃ t, Returns (releaseCollateral C.erc20.platform ⟨caller, s.now, hash⟩ id noteId pool) s.state
      (p.deposits noteId) t) ↔ Redeemable C s.state p := by
  simp only [due, Option.ite_none_right_eq_some, Option.some.injEq] at hdue
  obtain ⟨⟨hopened, hexpired, hunreleased⟩, rfl⟩ := hdue
  have hle := remainingB_le h.sound.booked hunreleased
  have hown := h.tickets.lock_own id (by rw [hopened]; simp)
  have hiff := redeemPositive_iff hown h.tickets.sound (congrArg s.state.storage.accounted) hle pool
  constructor
  · rintro ⟨t, hret⟩
    obtain ⟨after, w1, run⟩ := returns_releaseCollateral.mp hret
    exact hiff.mp ⟨after, w1, _, run.burned, run.paid⟩
  · intro hredeemable
    obtain ⟨after, w1, w2, hburned, hpaid⟩ := hiff.mpr hredeemable
    exact ⟨⟨_, w2, _⟩, returns_releaseCollateral.mpr
      ⟨after, w1, ⟨hunreleased, hopened, hexpired, hburned, hpaid, rfl, rfl, rfl⟩⟩⟩

theorem payout_iff (h : Steady D s) {operation : EscrowOperation}
    (hdue : due s.state.storage s.now id operation = some p) :
    (∃ t, Returns (execute C.erc20.platform ⟨D.pool, s.now, hash⟩
      (.privacyInvoke operation id poolAddress noteId)) s.state (p.deposits noteId) t) ↔
      Redeemable C s.state p := by
  simp only [execute, privacyInvoke, returns_readStorage_bind, returns_assert_bind,
    h.tickets.pool_eq, true_and]
  cases operation with
  | claim => exact claim_iff h hdue
  | timeout => exact timeout_iff h hdue
  | settleProceeds => exact settleProceeds_iff h hdue
  | releaseCollateral => exact releaseCollateral_iff h hdue
  | fund | fill | lock | take => cases hdue

end Calls

/-! ## The transaction of a payout -/

/-- The pool sends one unit of the ticket and invokes the payout. -/
def redemption (D : Deployment C.erc20) (p : Payout) (operation : EscrowOperation)
    (hash id : Felt) (poolAddress : ContractAddress) (noteId : Felt) : List (NetStep C.erc20) :=
  [.token D.pool p.ticket (.transfer C.escrow 1),
    .escrow D.pool hash (.privacyInvoke operation id poolAddress noteId)]

theorem due_own {s : Sys (World Erc20)} (h : Steady D s) {operation : EscrowOperation} {id : Felt}
    {p : Payout} (hdue : due s.state.storage s.now id operation = some p) :
    ∃ kind minted supply, OwnTicket D s.state.world kind id p.ticket minted supply := by
  cases operation <;> simp only [due, reduceCtorEq] at hdue
  case claim =>
    simp only [Option.ite_none_right_eq_some, Option.some.injEq] at hdue
    obtain ⟨hfilled, rfl⟩ := hdue
    exact ⟨_, _, _, h.tickets.deal_own _ (by rw [hfilled]; simp)⟩
  case timeout =>
    simp only [Option.ite_none_right_eq_some, Option.some.injEq] at hdue
    obtain ⟨⟨hfunded, -⟩, rfl⟩ := hdue
    exact ⟨_, _, _, h.tickets.deal_own _ (by rw [hfunded]; simp)⟩
  all_goals
    simp only [Option.ite_none_right_eq_some, Option.some.injEq] at hdue
    obtain ⟨⟨hopened, -⟩, rfl⟩ := hdue
    exact ⟨_, _, _, h.tickets.lock_own _ (by rw [hopened]; simp)⟩

theorem netStep_send {s : Sys (World Erc20)} {ticket : ContractAddress} {w : World Erc20}
    (h : World.call C.erc20.code D.pool ticket (.transfer C.escrow 1) s.state.world =
      some (true, w)) :
    netStep s (.token D.pool ticket (.transfer C.escrow 1) : NetStep C.erc20) =
      { s with state := { s.state with world := w } } := by
  have hinterference : NetStep.interference
      (.token D.pool ticket (.transfer C.escrow 1) : NetStep C.erc20) s.state.world = w := by
    unfold NetStep.interference
    dsimp only
    rw [if_neg D.pool_ne, h]
    rfl
  change ({ s with state := { s.state with world := _ } } : Sys (World Erc20)) = _
  rw [hinterference]

/-- A payout that is due, for which the pool has a unit of the ticket while the escrow holds no
unaccounted one, goes through with its exact deposits exactly when the escrow holds what its
books say of the ticket and of the paid token. In every run whose steps are clear for the two
tokens it does. -/
theorem payout_goes_through (D : Deployment C.erc20) (now : U64) (steps : List (NetStep C.erc20))
    {operation : EscrowOperation} {id : Felt} {p : Payout} (hash : Felt)
    (poolAddress : ContractAddress) (noteId : Felt)
    (hdue : due (D.reached now steps).state.storage (D.reached now steps).now id operation = some p)
    (hpool : 1 ≤ (D.reached now steps).state.world.balance p.ticket D.pool)
    (hnone : (D.reached now steps).state.world.balance p.ticket C.escrow ≤
      ((D.reached now steps).state.storage.accounted p.ticket).val) :
    let s := D.reached now steps
    let paid := (D.reached now
        (steps ++ redemption D p operation hash id poolAddress noteId)).receipts =
      s.receipts ++ [⟨D.pool, hash, .privacyInvoke operation id poolAddress noteId,
        p.deposits noteId⟩]
    (paid ↔ ((s.state.storage.accounted p.ticket).val ≤ s.state.world.balance p.ticket C.escrow ∧
      (0 < p.amount.val → (s.state.storage.accounted p.token).val ≤
        s.state.world.balance p.token C.escrow))) ∧
    (Along netStep (Clears D p.ticket) (D.reached now []) steps →
      (0 < p.amount.val → Along netStep (Clears D p.token) (D.reached now []) steps) → paid) := by
  intro s paid
  have hsteady : Steady D s := run_invariant steady_step steps (steady_initial D now)
  change s.state.world.balance p.ticket C.escrow ≤ (s.state.storage.accounted p.ticket).val at hnone
  obtain ⟨kind, minted, supply, hown⟩ := due_own hsteady hdue
  obtain ⟨w, hsent, hheld, hrest⟩ := hown.send hsteady.tickets.sound hpool
  have hsend := netStep_send hsent
  have hpaid_iff : paid ↔ ((s.state.storage.accounted p.ticket).val ≤
      s.state.world.balance p.ticket C.escrow ∧
      (0 < p.amount.val → (s.state.storage.accounted p.token).val ≤
        s.state.world.balance p.token C.escrow)) := by
    have hsteady' := steady_step s (.token D.pool p.ticket (.transfer C.escrow 1)) hsteady
    rw [hsend] at hsteady'
    have hcall := (receipts_step_call (P := C.erc20.platform)
      { s with state := { s.state with world := w } } D.pool hash
      (.privacyInvoke operation id poolAddress noteId) (p.deposits noteId)).trans
      (payout_iff hsteady' hdue)
    have hreached : D.reached now (steps ++ redemption D p operation hash id poolAddress noteId) =
        netStep { s with state := { s.state with world := w } }
          (.escrow D.pool hash (.privacyInvoke operation id poolAddress noteId) :
            NetStep C.erc20) := by
      unfold Deployment.reached redemption
      rw [run_append, run_cons]
      change run netStep (netStep s _) _ = _
      rw [hsend]
      rfl
    change (D.reached now _).receipts = _ ↔ _
    rw [hreached]
    refine hcall.trans ?_
    unfold Redeemable
    dsimp only
    rw [hheld]
    constructor
    · rintro ⟨hticket, htoken⟩
      refine ⟨by omega, fun hpos => ?_⟩
      by_cases hne : p.token = p.ticket
      · rw [hne]
        omega
      · rw [← hrest _ hne]
        exact htoken hpos hne
    · rintro ⟨hticket, htoken⟩
      refine ⟨by omega, fun hpos hne => ?_⟩
      rw [hrest _ hne]
      exact htoken hpos
  exact ⟨hpaid_iff, fun hticket htoken => hpaid_iff.mpr
    ⟨(solvent_of_along hticket).accounted_le,
      fun hpos => (solvent_of_along (htoken hpos)).accounted_le⟩⟩

namespace Recycled

/-- Deal 1 is funded, its ticket fetched by the pool, and the deal filled. -/
def filled : List (NetStep chain.erc20) :=
  [.issue 4 (2, 10), .issue 6 (2, 10), .escrow 3 1 (.prepareFunding 4), .token 2 4 (.transfer 1 5),
    .escrow 2 1 (.privacyInvoke (.fund ⟨4, 5, 6, 1, 100⟩) 1 2 1),
    .token 2 101 (.transferFrom 1 2 1), .escrow 3 2 (.prepareFunding 6),
    .token 2 6 (.transfer 1 1), .escrow 2 2 (.privacyInvoke (.fill ⟨6⟩) 1 2 1)]

/-- The same, after the ticket of deal 1 has been accepted as the funding of deal 2. -/
def stranded : List (NetStep chain.erc20) :=
  steps ++ [.token 2 101 (.transferFrom 1 2 1), .issue 6 (2, 10),
    .escrow 3 2 (.prepareFunding 6), .token 2 6 (.transfer 1 1),
    .escrow 2 2 (.privacyInvoke (.fill ⟨6⟩) 1 2 1)]

end Recycled

/-- The claim of a filled deal. -/
theorem payout_goes_through_filled :
    (Recycled.deployment.reached 0 (Recycled.filled ++
        redemption Recycled.deployment ⟨101, 6, 1⟩ .claim 3 1 2 7)).receipts =
      (Recycled.deployment.reached 0 Recycled.filled).receipts ++
        [⟨2, 3, .privacyInvoke .claim 1 2 7, [⟨7, 6, 1⟩]⟩] :=
  (payout_goes_through Recycled.deployment 0 Recycled.filled 3 2 7 (by decide +kernel)
    (by decide +kernel) (by decide +kernel)).1.mpr ⟨by decide +kernel, fun _ => by decide +kernel⟩

/-- The claim of deal 1 after its ticket has been accepted as the funding of deal 2: the unit that
the pool sends is taken for the accounted one. -/
theorem not_always_paid :
    ¬ ∀ (C : Chain) (D : Deployment C.erc20) (now : U64) (steps : List (NetStep C.erc20))
      (operation : EscrowOperation) (id : Felt) (p : Payout) (hash : Felt)
      (poolAddress : ContractAddress) (noteId : Felt),
      due (D.reached now steps).state.storage (D.reached now steps).now id operation = some p →
      1 ≤ (D.reached now steps).state.world.balance p.ticket D.pool →
      (D.reached now steps).state.world.balance p.ticket C.escrow ≤
        ((D.reached now steps).state.storage.accounted p.ticket).val →
      (D.reached now (steps ++ redemption D p operation hash id poolAddress noteId)).receipts =
        (D.reached now steps).receipts ++
          [⟨D.pool, hash, .privacyInvoke operation id poolAddress noteId, p.deposits noteId⟩] := by
  intro h
  have hpaid := h Recycled.chain Recycled.deployment 0 Recycled.stranded .claim 1 ⟨101, 6, 1⟩ 3 2 7
    (by decide +kernel) (by decide +kernel) (by decide +kernel)
  exact absurd hpaid (by decide +kernel)

end App20.Escrow
