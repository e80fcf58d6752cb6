import App20.Escrow.TicketSupply

/-!
# Balances and allowances in a world of ERC-20 tokens

The network whose tokens are ERC-20s that move exactly what is asked for. `balance` and
`allowance` read the tokens and the tickets alike, and the lemmas say what each kind of call
does to the two numbers that matter to the escrow: what it holds of a token, and what the pool
may still fetch of it.
-/

namespace App20.Escrow

open App20.Lib App20.Lib.Exec App20.Starknet
open Function (update update_self update_of_ne)

/-! ## The network of ERC-20 tokens -/

def erc20Code : TokenCode Erc20 where
  Args := ContractAddress × U256
  construct := fun args => Erc20.constructor args.1 args.2
  balanceOf := fun _ account t => some (t.balances account, t)
  call := fun _ caller c t =>
    match t.call caller c with
    | .ok t' => some (true, t')
    | .error _ => none

def Chain.erc20 (C : Chain) : Network Erc20 := { C with code := erc20Code }

namespace Contract

def balances : Contract Erc20 → ContractAddress → U256
  | .ticket _ t => t.balances
  | .other e => e.balances

def allowances : Contract Erc20 → ContractAddress → ContractAddress → U256
  | .ticket _ t => t.allowances
  | .other e => e.allowances

end Contract

variable {k : TokenCall} {amount : U256}

namespace World

def balance (w : World Erc20) (token account : ContractAddress) : Nat :=
  match w token with
  | some c => (c.balances account).val
  | none => 0

def allowance (w : World Erc20) (token owner spender : ContractAddress) : Nat :=
  match w token with
  | some c => (c.allowances owner spender).val
  | none => 0

variable {w w' : World Erc20} {token account owner spender : ContractAddress}
  {c c' : Contract Erc20}

theorem balance_some (h : w token = some c) : w.balance token account = (c.balances account).val := by
  unfold balance
  rw [h]

theorem allowance_some (h : w token = some c) :
    w.allowance token owner spender = (c.allowances owner spender).val := by
  unfold allowance
  rw [h]

theorem balance_none (h : w token = none) : w.balance token account = 0 := by
  unfold balance
  rw [h]

theorem allowance_none (h : w token = none) : w.allowance token owner spender = 0 := by
  unfold allowance
  rw [h]

theorem balance_update (token' : ContractAddress) :
    balance (update w token (some c)) token' account =
      if token' = token then (c.balances account).val else w.balance token' account := by
  unfold balance
  by_cases heq : token' = token
  · rw [heq, update_self, if_pos rfl]
  · rw [update_of_ne heq, if_neg heq]

theorem allowance_update (token' : ContractAddress) :
    allowance (update w token (some c)) token' owner spender =
      if token' = token then (c.allowances owner spender).val
      else w.allowance token' owner spender := by
  unfold allowance
  by_cases heq : token' = token
  · rw [heq, update_self, if_pos rfl]
  · rw [update_of_ne heq, if_neg heq]

/-! ## Single calls -/

theorem balanceOf_some (h : w token = some c) :
    balanceOf erc20Code token account w = some (c.balances account, w) := by
  unfold balanceOf
  rw [h]
  cases c with
  | ticket kind t => rfl
  | other e =>
    simp only [erc20Code, Option.map_some, Contract.balances]
    rw [← h, Function.update_eq_self]

/-- Reading a balance changes nothing. -/
theorem balanceOf_eq {v : U256} (h : balanceOf erc20Code token account w = some (v, w')) :
    w' = w ∧ v.val = w.balance token account ∧ ∃ c, w token = some c := by
  cases hw : w token with
  | none =>
    unfold balanceOf at h
    rw [hw] at h
    cases h
  | some c =>
    rw [balanceOf_some hw] at h
    cases h
    exact ⟨rfl, (balance_some hw).symm, c, rfl⟩

theorem call_eq {caller : ContractAddress} {b : Bool}
    (h : call erc20Code caller token k w = some (b, w')) :
    b = true ∧ ((∃ kind t t', w token = some (.ticket kind t) ∧ TicketCalled kind t caller k t' ∧
      w' = update w token (some (.ticket kind t'))) ∨
    (∃ e e', w token = some (.other e) ∧ e.call caller k = .ok e' ∧
      w' = update w token (some (.other e')))) := by
  unfold call at h
  split at h
  · next kind t hw =>
    split at h
    · next t' hcall =>
      cases h
      exact ⟨rfl, Or.inl ⟨kind, t, t', hw, ticket_called hcall, rfl⟩⟩
    · cases h
  · next e hw =>
    simp only [erc20Code, Option.map_eq_some_iff] at h
    obtain ⟨⟨b', e'⟩, hcode, heq⟩ := h
    split at hcode
    · next e'' hcall =>
      cases hcode
      cases heq
      exact ⟨rfl, Or.inr ⟨e, _, hw, hcall, rfl⟩⟩
    · cases hcode
  · cases h

/-- No balance and no allowance changes. -/
structure Unmoved (w w' : World Erc20) : Prop where
  balance_eq : ∀ token account, w'.balance token account = w.balance token account
  allowance_eq : ∀ token owner spender,
    w'.allowance token owner spender = w.allowance token owner spender

theorem Unmoved.refl (w : World Erc20) : Unmoved w w := ⟨fun _ _ => rfl, fun _ _ _ => rfl⟩

/-- A new contract in which nobody holds anything. -/
theorem unmoved_empty (hfree : w token = none) (hbalances : ∀ a, (c.balances a).val = 0)
    (hallowances : ∀ o s, (c.allowances o s).val = 0) : Unmoved w (update w token (some c)) := by
  refine ⟨fun token' a => ?_, fun token' o s => ?_⟩
  · rw [balance_update]
    split
    · next heq => rw [heq, hbalances, balance_none hfree]
    · rfl
  · rw [allowance_update]
    split
    · next heq => rw [heq, hallowances, allowance_none hfree]
    · rfl

/-- An approval sets one allowance. -/
theorem approve_eq {caller : ContractAddress} {b : Bool}
    (h : call erc20Code caller token (.approve spender amount) w = some (b, w')) :
    (∀ token' a, w'.balance token' a = w.balance token' a) ∧
    (∀ token' o s, w'.allowance token' o s =
      if token' = token ∧ o = caller ∧ s = spender then amount.val
      else w.allowance token' o s) := by
  obtain ⟨-, h⟩ := call_eq h
  have hcontract : ∃ c c', w token = some c ∧ w' = update w token (some c') ∧
      c'.balances = c.balances ∧ c'.allowances = allow c.allowances caller spender amount := by
    rcases h with ⟨kind, t, t', hw, hcalled, rfl⟩ | ⟨e, e', hw, hcalled, rfl⟩
    · cases hcalled
      exact ⟨_, _, hw, rfl, rfl, rfl⟩
    · cases hcalled
      exact ⟨_, _, hw, rfl, rfl, rfl⟩
  obtain ⟨c, c', hw, rfl, hbalances, hallowances⟩ := hcontract
  refine ⟨fun token' a => ?_, fun token' o s => ?_⟩
  · rw [balance_update, hbalances]
    split
    · next heq => rw [heq, balance_some hw]
    · rfl
  · rw [allowance_update, hallowances, allow_apply]
    by_cases heq : token' = token
    · rw [if_pos heq, heq, allowance_some hw]
      simp only [true_and]
      split <;> rfl
    · rw [if_neg heq, if_neg fun hand => heq hand.1]

end World

/-! ## Calls of the escrow to its tickets -/

section Own

variable {C : Chain} {D : Deployment C.erc20} {w w' : World Erc20} {kind : TicketKind} {id : Felt}
  {address : ContractAddress} {minted : Bool} {supply : Nat}

/-- Nobody holds a unit of a ticket that is not minted. -/
theorem OwnTicket.balance_eq_zero (h : OwnTicket D w kind id address false supply)
    (hsound : ∀ a k t, w a = some (.ticket k t) → t.Sound k) (account : ContractAddress) :
    w.balance address account = 0 := by
  obtain ⟨t, hw, -, -, -, hminted, -⟩ := h
  rw [World.balance_some hw]
  exact ((hsound _ _ _ hw).unminted hminted).2 account

theorem OwnTicket.mint_balance (h : OwnTicket D w kind id address false supply)
    (hmint : C.erc20.platform.mint address w = some w') :
    (∀ token account, w'.balance token account =
      if token = address ∧ account = C.escrow then kind.units.val
      else w.balance token account) ∧
    (∀ token owner spender, w'.allowance token owner spender = w.allowance token owner spender) := by
  obtain ⟨⟨b, w''⟩, hcall, rfl⟩ := Option.map_eq_some_iff.mp hmint
  obtain ⟨-, hcase⟩ := World.call_eq hcall
  obtain ⟨t, hw, hescrow, -⟩ := h
  rcases hcase with ⟨kind', t0, t', hw', hcalled, rfl⟩ | ⟨e, e', hw', -⟩
  · rw [hw, Option.some.injEq, Contract.ticket.injEq] at hw'
    obtain ⟨rfl, rfl⟩ := hw'
    cases hcalled
    refine ⟨fun token account => ?_, fun token owner spender => ?_⟩
    · rw [World.balance_update]
      by_cases htoken : token = address
      · rw [htoken, if_pos rfl]
        simp only [Contract.balances, true_and, hescrow]
        by_cases haccount : account = C.escrow
        · rw [if_pos haccount, haccount]
          exact congrArg Fin.val (update_self _ _ _)
        · rw [if_neg haccount, World.balance_some hw]
          exact congrArg Fin.val (update_of_ne haccount _ _)
      · rw [if_neg htoken, if_neg fun hand => htoken hand.1]
    · rw [World.allowance_update]
      split
      · next htoken =>
        rw [htoken, World.allowance_some hw]
        rfl
      · rfl
  · rw [hw] at hw'
    cases hw'

theorem OwnTicket.burn_balance (h : OwnTicket D w kind id address minted supply)
    (hburn : C.erc20.platform.burn address w = some w') :
    w.balance address C.escrow = w'.balance address C.escrow + 1 ∧
    (∀ token account, ¬ (token = address ∧ account = C.escrow) →
      w'.balance token account = w.balance token account) ∧
    (∀ token owner spender, w'.allowance token owner spender = w.allowance token owner spender) := by
  obtain ⟨⟨b, w''⟩, hcall, rfl⟩ := Option.map_eq_some_iff.mp hburn
  obtain ⟨-, hcase⟩ := World.call_eq hcall
  obtain ⟨t, hw, hescrow, -⟩ := h
  rcases hcase with ⟨kind', t0, t', hw', hcalled, rfl⟩ | ⟨e, e', hw', -⟩
  · rw [hw, Option.some.injEq, Contract.ticket.injEq] at hw'
    obtain ⟨rfl, rfl⟩ := hw'
    cases hcalled with
    | @burn left supply' _ hleft hsupply =>
      refine ⟨?_, fun token account hne => ?_, fun token owner spender => ?_⟩
      · rw [World.balance_update, if_pos rfl, World.balance_some hw]
        have hself : C.escrow = t.escrow := hescrow.symm
        simp only [Contract.balances]
        rw [hself, update_self]
        exact hleft
      · rw [World.balance_update]
        split
        · next htoken =>
          have haccount : account ≠ t.escrow := fun heq => hne ⟨htoken, heq.trans hescrow⟩
          rw [htoken, World.balance_some hw]
          exact congrArg Fin.val (update_of_ne haccount _ _)
        · rfl
      · rw [World.allowance_update]
        split
        · next htoken =>
          rw [htoken, World.allowance_some hw]
          rfl
        · rfl
  · rw [hw] at hw'
    cases hw'

theorem deployTicket_unmoved {owner pool : ContractAddress}
    (h : C.erc20.deployTicket kind address owner pool id w = some w') : World.Unmoved w w' := by
  obtain ⟨-, hfree, t, ht, rfl⟩ := deployTicket_eq h
  rw [constructor_ok ht]
  exact World.unmoved_empty hfree (fun _ => rfl) fun _ _ => rfl

end Own

/-! ## Steps of others -/

/-- Nobody but the pool may fetch anything from the escrow. -/
def Closed (C : Chain) (pool : ContractAddress) (w : World Erc20) : Prop :=
  ∀ token spender, spender ≠ pool → w.allowance token C.escrow spender = 0

/-- What others can do to the escrow's holding of one token: pay in, and let the pool fetch what
it is allowed to. -/
structure Disturbed (C : Chain) (pool : ContractAddress) (c c' : Contract Erc20) : Prop where
  moved : ∃ fetched paid, (c'.balances C.escrow).val + fetched = (c.balances C.escrow).val + paid ∧
    (c'.allowances C.escrow pool).val + fetched = (c.allowances C.escrow pool).val
  closed : ∀ spender, spender ≠ pool → (c'.allowances C.escrow spender).val = 0

section Interference

variable {C : Chain} {pool caller : ContractAddress} {c c' : Contract Erc20}

theorem Disturbed.paid (paid : Nat)
    (hbalance : (c'.balances C.escrow).val = (c.balances C.escrow).val + paid)
    (hallowance : ∀ spender, c'.allowances C.escrow spender = c.allowances C.escrow spender)
    (hclosed : ∀ spender, spender ≠ pool → (c.allowances C.escrow spender).val = 0) :
    Disturbed C pool c c' :=
  ⟨⟨0, paid, hbalance, congrArg Fin.val (hallowance pool)⟩,
    fun spender hne => by rw [hallowance, hclosed spender hne]⟩

/-- A transfer by the sender itself. -/
theorem Disturbed.transfer {ε : Type} {recipient : ContractAddress} (hcaller : caller ≠ C.escrow)
    (hmove : (move c.balances caller recipient amount : Except (Panic ε) _) = .ok c'.balances)
    (hallowances : c'.allowances = c.allowances)
    (hclosed : ∀ spender, spender ≠ pool → (c.allowances C.escrow spender).val = 0) :
    Disturbed C pool c c' := by
  have hval := move_val hmove C.escrow
  rw [if_neg hcaller.symm, Nat.add_zero] at hval
  exact Disturbed.paid _ hval (fun spender => by rw [hallowances]) hclosed

theorem Disturbed.transferFrom {ε : Type} {sender recipient : ContractAddress}
    (hspend : (spend c.allowances sender caller amount : Except (Panic ε) _) = .ok c'.allowances)
    (hmove : (move c.balances sender recipient amount : Except (Panic ε) _) = .ok c'.balances)
    (hclosed : ∀ spender, spender ≠ pool → (c.allowances C.escrow spender).val = 0) :
    Disturbed C pool c c' := by
  have hval := move_val hmove C.escrow
  have hallowance := fun spender => spend_val hspend C.escrow spender
  have hpool := hallowance pool
  refine ⟨⟨if C.escrow = sender ∧ pool = caller then amount.val else 0,
    (if C.escrow = recipient then amount.val else 0), ?_, hpool⟩, fun spender hne => ?_⟩
  · by_cases hsender : C.escrow = sender
    · by_cases hp : pool = caller
      · rw [if_pos ⟨hsender, hp⟩]
        rw [if_pos hsender] at hval
        exact hval
      · have hzero := hallowance caller
        rw [if_pos ⟨hsender, rfl⟩, hclosed caller (Ne.symm hp)] at hzero
        rw [if_neg fun hand => hp hand.2]
        rw [if_pos hsender] at hval
        omega
    · rw [if_neg fun hand => hsender hand.1]
      rw [if_neg hsender] at hval
      exact hval
  · have := hallowance spender
    rw [hclosed spender hne] at this
    omega

theorem Disturbed.ticket {kind : TicketKind} {t t' : Ticket} (hcaller : caller ≠ C.escrow)
    (hcalled : TicketCalled kind t caller k t')
    (hclosed : ∀ spender, spender ≠ pool → (t.allowances C.escrow spender).val = 0) :
    Disturbed C pool (.ticket kind t) (.ticket kind t') := by
  cases hcalled with
  | transfer _ _ hmove => exact Disturbed.transfer hcaller hmove rfl hclosed
  | transferFrom _ hspend _ hmove => exact Disturbed.transferFrom hspend hmove hclosed
  | approve =>
    refine Disturbed.paid 0 rfl (fun spender => ?_) hclosed
    exact (allow_apply _ _ _ _ _ _).trans (if_neg fun hand => hcaller hand.1.symm)
  | mint hescrow | burn hescrow =>
    refine Disturbed.paid 0 ?_ (fun _ => rfl) hclosed
    exact congrArg Fin.val (update_of_ne (hescrow ▸ hcaller.symm) _ _)

theorem Disturbed.erc20 {e e' : Erc20} (hcaller : caller ≠ C.escrow)
    (hcalled : e.call caller k = .ok e')
    (hclosed : ∀ spender, spender ≠ pool → (e.allowances C.escrow spender).val = 0) :
    Disturbed C pool (.other e) (.other e') := by
  cases k with
  | transfer recipient amount =>
    simp only [Erc20.call, Erc20.transfer, bind_ok] at hcalled
    obtain ⟨balances, hmove, heq⟩ := hcalled
    cases heq
    exact Disturbed.transfer hcaller hmove rfl hclosed
  | transferFrom sender recipient amount =>
    simp only [Erc20.call, Erc20.transferFrom, bind_ok] at hcalled
    obtain ⟨allowances, hspend, balances, hmove, heq⟩ := hcalled
    cases heq
    exact Disturbed.transferFrom hspend hmove hclosed
  | approve spender amount =>
    cases hcalled
    refine Disturbed.paid 0 rfl (fun spender => ?_) hclosed
    exact (allow_apply _ _ _ _ _ _).trans (if_neg fun hand => hcaller hand.1.symm)
  | mint | burn => cases hcalled

end Interference

/-- The same of all tokens. -/
structure Interfered (C : Chain) (pool : ContractAddress) (w w' : World Erc20) : Prop where
  moved : ∀ token, ∃ fetched paid,
    w'.balance token C.escrow + fetched = w.balance token C.escrow + paid ∧
    w'.allowance token C.escrow pool + fetched = w.allowance token C.escrow pool
  closed : Closed C pool w'

section Interference

variable {C : Chain} {pool address : ContractAddress} {w w' : World Erc20} {c c' : Contract Erc20}

theorem Interfered.unmoved (hclosed : Closed C pool w) (h : World.Unmoved w w') :
    Interfered C pool w w' :=
  ⟨fun token => ⟨0, 0, h.balance_eq _ _, h.allowance_eq _ _ _⟩,
    fun token spender hne => by rw [h.allowance_eq, hclosed token spender hne]⟩

theorem Interfered.call (hclosed : Closed C pool w) (hw : w address = some c)
    (h : Disturbed C pool c c') : Interfered C pool w (update w address (some c')) := by
  refine ⟨fun token => ?_, fun token spender hne => ?_⟩
  · rw [World.balance_update, World.allowance_update]
    by_cases htoken : token = address
    · rw [if_pos htoken, if_pos htoken, htoken, World.balance_some hw, World.allowance_some hw]
      exact h.moved
    · rw [if_neg htoken, if_neg htoken]
      exact ⟨0, 0, rfl, rfl⟩
  · rw [World.allowance_update]
    split
    · exact h.closed spender hne
    · exact hclosed token spender hne

/-- A new token may give some of its supply to the escrow. -/
theorem Interfered.issued (hclosed : Closed C pool w) (hfree : w address = none)
    (args : ContractAddress × U256) :
    Interfered C pool w (update w address (some (.other (Erc20.constructor args.1 args.2)))) := by
  refine ⟨fun token => ?_, fun token spender hne => ?_⟩
  · rw [World.balance_update, World.allowance_update]
    by_cases htoken : token = address
    · rw [if_pos htoken, if_pos htoken, htoken, World.balance_none hfree,
        World.allowance_none hfree]
      exact ⟨0, _, (Nat.zero_add _).symm, rfl⟩
    · rw [if_neg htoken, if_neg htoken]
      exact ⟨0, 0, rfl, rfl⟩
  · rw [World.allowance_update]
    split
    · rfl
    · exact hclosed token spender hne

/-- Whatever the others do, they pay in, and the pool fetches what it is allowed to. -/
theorem interference_interfered (hclosed : Closed C pool w) (a : NetStep C.erc20) :
    Interfered C pool w (a.interference w) := by
  cases a with
  | advance time | escrow caller transactionHash k =>
    exact Interfered.unmoved hclosed (World.Unmoved.refl w)
  | issue address args =>
    unfold NetStep.interference
    dsimp only
    split
    · next hfree =>
      simp only [Network.isFree, decide_eq_true_eq, Option.isNone_iff_eq_none] at hfree
      exact Interfered.issued hclosed hfree.2.2 args
    · exact Interfered.unmoved hclosed (World.Unmoved.refl w)
  | issueTicket address kind owner pool id =>
    unfold NetStep.interference
    dsimp only
    cases hdeploy : C.erc20.deployTicket kind address owner pool id w with
    | none => exact Interfered.unmoved hclosed (World.Unmoved.refl w)
    | some w' => exact Interfered.unmoved hclosed (deployTicket_unmoved hdeploy)
  | token caller address k =>
    unfold NetStep.interference
    dsimp only
    split
    · exact Interfered.unmoved hclosed (World.Unmoved.refl w)
    · next hcaller =>
      cases hcall : World.call C.erc20.code caller address k w with
      | none => exact Interfered.unmoved hclosed (World.Unmoved.refl w)
      | some p =>
        obtain ⟨b, w'⟩ := p
        obtain ⟨-, hcase⟩ := World.call_eq hcall
        rcases hcase with ⟨kind, t, t', hw, hcalled, rfl⟩ | ⟨e, e', hw, hcalled, rfl⟩
        · refine Interfered.call hclosed hw (Disturbed.ticket hcaller hcalled fun s hne => ?_)
          have := hclosed address s hne
          rw [World.allowance_some hw] at this
          exact this
        · refine Interfered.call hclosed hw (Disturbed.erc20 hcaller hcalled fun s hne => ?_)
          have := hclosed address s hne
          rw [World.allowance_some hw] at this
          exact this

end Interference

end App20.Escrow
