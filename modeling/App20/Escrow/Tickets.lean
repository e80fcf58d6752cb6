import App20.Starknet.Erc20

/-!
# Claim tickets and lock tickets

The two authorization tokens of the escrow. A claim ticket has one unit, a lock ticket two;
their code differs in `mint`, `burn` and `transfer_balance` and is otherwise the same.
-/

namespace App20.Escrow

open App20.Lib App20.Lib.Exec App20.Starknet

/-! ## Code -/

inductive TicketError where
  | notAuthorized | alreadyMinted | badAmount | badRecipient | zeroAddress | zeroDealId
  | zeroLockId

abbrev TicketPanic := Panic TicketError

/-- The storage of a ticket; `id` is the deal or the lock it belongs to. -/
structure Ticket where
  escrow : ContractAddress
  pool : ContractAddress
  id : Felt
  minted : Bool
  supply : U256
  balances : ContractAddress → U256
  allowances : ContractAddress → ContractAddress → U256

namespace Ticket

def construct (zeroId : TicketError) (escrow pool : ContractAddress) (id : Felt) :
    Except TicketPanic Ticket := do
  check (escrow ≠ 0) .zeroAddress
  check (pool ≠ 0) .zeroAddress
  check (id ≠ 0) zeroId
  return ⟨escrow, pool, id, false, 0, fun _ => 0, fun _ _ => 0⟩

def assertAuthorized (t : Ticket) (caller : ContractAddress) : Except TicketPanic Unit :=
  check (caller = t.escrow ∨ caller = t.pool) .notAuthorized

/-- `transfer`, over the contract's own `transfer_balance`. -/
def transferWith (transferBalance : Ticket → ContractAddress → ContractAddress → U256 →
      Except TicketPanic Ticket) (t : Ticket) (caller recipient : ContractAddress) (amount : U256) :
    Except TicketPanic Ticket := do
  assertAuthorized t caller
  transferBalance t caller recipient amount

/-- `transfer_from`, over the contract's own `transfer_balance`. -/
def transferFromWith (transferBalance : Ticket → ContractAddress → ContractAddress → U256 →
      Except TicketPanic Ticket)
    (t : Ticket) (caller sender recipient : ContractAddress) (amount : U256) :
    Except TicketPanic Ticket := do
  assertAuthorized t caller
  let allowances ← spend t.allowances sender caller amount
  transferBalance { t with allowances } sender recipient amount

def approve (t : Ticket) (caller spender : ContractAddress) (amount : U256) :
    Except TicketPanic Ticket := do
  assertAuthorized t caller
  return { t with allowances := allow t.allowances caller spender amount }

def mintUnits (units : U256) (t : Ticket) (caller : ContractAddress) :
    Except TicketPanic Ticket := do
  check (caller = t.escrow) .notAuthorized
  check (t.minted = false) .alreadyMinted
  return { t with
    minted := true, supply := units, balances := Function.update t.balances t.escrow units }

end Ticket

namespace ClaimTicket

def constructor : ContractAddress → ContractAddress → Felt → Except TicketPanic Ticket :=
  Ticket.construct .zeroDealId

def transferBalance (t : Ticket) (sender recipient : ContractAddress) (amount : U256) :
    Except TicketPanic Ticket := do
  check (amount = 1) .badAmount
  check (recipient = t.escrow ∨ recipient = t.pool) .badRecipient
  let balances ← move t.balances sender recipient amount
  return { t with balances }

def transfer : Ticket → ContractAddress → ContractAddress → U256 → Except TicketPanic Ticket :=
  Ticket.transferWith transferBalance

def transferFrom :
    Ticket → ContractAddress → ContractAddress → ContractAddress → U256 →
      Except TicketPanic Ticket := Ticket.transferFromWith transferBalance

def mint : Ticket → ContractAddress → Except TicketPanic Ticket := Ticket.mintUnits 1

def burn (t : Ticket) (caller : ContractAddress) : Except TicketPanic Ticket := do
  check (caller = t.escrow) .notAuthorized
  check (t.balances t.escrow = 1) .badAmount
  return { t with balances := Function.update t.balances t.escrow 0, supply := 0 }

end ClaimTicket

namespace LockTicket

def constructor : ContractAddress → ContractAddress → Felt → Except TicketPanic Ticket :=
  Ticket.construct .zeroLockId

def transferBalance (t : Ticket) (sender recipient : ContractAddress) (amount : U256) :
    Except TicketPanic Ticket := do
  -- The pool pulls the whole minted supply out of the escrow in one deposit.
  check (amount = 1 ∨ (amount = 2 ∧ sender = t.escrow ∧ recipient = t.pool)) .badAmount
  check (recipient = t.escrow ∨ recipient = t.pool) .badRecipient
  let balances ← move t.balances sender recipient amount
  return { t with balances }

def transfer : Ticket → ContractAddress → ContractAddress → U256 → Except TicketPanic Ticket :=
  Ticket.transferWith transferBalance

def transferFrom :
    Ticket → ContractAddress → ContractAddress → ContractAddress → U256 →
      Except TicketPanic Ticket := Ticket.transferFromWith transferBalance

def mint : Ticket → ContractAddress → Except TicketPanic Ticket := Ticket.mintUnits 2

def burn (t : Ticket) (caller : ContractAddress) : Except TicketPanic Ticket := do
  check (caller = t.escrow) .notAuthorized
  let balance := t.balances t.escrow
  check (1 ≤ balance.val) .badAmount
  let left ← orPanic (checkedSub balance 1) .underflow
  let supply ← orPanic (checkedSub t.supply 1) .underflow
  return { t with balances := Function.update t.balances t.escrow left, supply }

end LockTicket

inductive TicketKind where
  | claim | lock

namespace TicketKind

def constructor : TicketKind → ContractAddress → ContractAddress → Felt → Except TicketPanic Ticket
  | .claim => ClaimTicket.constructor
  | .lock => LockTicket.constructor

def transferBalance :
    TicketKind → Ticket → ContractAddress → ContractAddress → U256 → Except TicketPanic Ticket
  | .claim => ClaimTicket.transferBalance
  | .lock => LockTicket.transferBalance

/-- The units that `mint` creates. -/
def units : TicketKind → U256
  | .claim => 1
  | .lock => 2

def call (kind : TicketKind) (t : Ticket) (caller : ContractAddress) :
    TokenCall → Except TicketPanic Ticket
  | .transfer recipient amount =>
    match kind with
    | .claim => ClaimTicket.transfer t caller recipient amount
    | .lock => LockTicket.transfer t caller recipient amount
  | .transferFrom sender recipient amount =>
    match kind with
    | .claim => ClaimTicket.transferFrom t caller sender recipient amount
    | .lock => LockTicket.transferFrom t caller sender recipient amount
  | .approve spender amount => t.approve caller spender amount
  | .mint =>
    match kind with
    | .claim => ClaimTicket.mint t caller
    | .lock => LockTicket.mint t caller
  | .burn =>
    match kind with
    | .claim => ClaimTicket.burn t caller
    | .lock => LockTicket.burn t caller

end TicketKind

/-! ## What a call does -/

variable {kind : TicketKind} {t t' : Ticket} {caller : ContractAddress}

variable {amount : U256} {c : TokenCall}

theorem transferBalance_ok {sender recipient : ContractAddress}
    (h : kind.transferBalance t sender recipient amount = .ok t') :
    (recipient = t.escrow ∨ recipient = t.pool) ∧
      ∃ balances, (move t.balances sender recipient amount : Except TicketPanic _) = .ok balances ∧
        t' = { t with balances } := by
  cases kind <;>
    simp only [TicketKind.transferBalance, ClaimTicket.transferBalance,
      LockTicket.transferBalance, bind_ok, check_ok_iff, exists_const] at h
  all_goals
    obtain ⟨-, hrecipient, balances, hmove, heq⟩ := h
    cases heq
    exact ⟨hrecipient, balances, hmove, rfl⟩

inductive TicketCalled (kind : TicketKind) (t : Ticket) (caller : ContractAddress) :
    TokenCall → Ticket → Prop where
  | transfer {recipient : ContractAddress} {amount : U256} {balances : ContractAddress → U256}
      (authorized : caller = t.escrow ∨ caller = t.pool)
      (recipient_eq : recipient = t.escrow ∨ recipient = t.pool)
      (moved : (move t.balances caller recipient amount : Except TicketPanic _) = .ok balances) :
      TicketCalled kind t caller (.transfer recipient amount) { t with balances }
  | transferFrom {sender recipient : ContractAddress} {amount : U256}
      {balances : ContractAddress → U256} {allowances : ContractAddress → ContractAddress → U256}
      (authorized : caller = t.escrow ∨ caller = t.pool)
      (spent : (spend t.allowances sender caller amount : Except TicketPanic _) = .ok allowances)
      (recipient_eq : recipient = t.escrow ∨ recipient = t.pool)
      (moved : (move t.balances sender recipient amount : Except TicketPanic _) = .ok balances) :
      TicketCalled kind t caller (.transferFrom sender recipient amount)
        { t with balances, allowances }
  | approve {spender : ContractAddress} {amount : U256}
      (authorized : caller = t.escrow ∨ caller = t.pool) :
      TicketCalled kind t caller (.approve spender amount)
        { t with allowances := allow t.allowances caller spender amount }
  | mint (by_escrow : caller = t.escrow) (unminted : t.minted = false) :
      TicketCalled kind t caller .mint
        { t with
          minted := true, supply := kind.units,
          balances := Function.update t.balances t.escrow kind.units }
  | burn {left supply : U256} (by_escrow : caller = t.escrow)
      (left_eq : (t.balances t.escrow).val = left.val + 1)
      (supply_eq : (kind = .claim ∧ left = 0 ∧ supply = 0) ∨
        (kind = .lock ∧ t.supply.val = supply.val + 1)) :
      TicketCalled kind t caller .burn
        { t with balances := Function.update t.balances t.escrow left, supply }

theorem ticket_called (h : kind.call t caller c = .ok t') : TicketCalled kind t caller c t' := by
  cases c with
  | transfer recipient amount =>
    have h' : t.assertAuthorized caller = .ok () ∧
        kind.transferBalance t caller recipient amount = .ok t' := by
      cases kind <;>
        simpa [TicketKind.call, TicketKind.transferBalance, ClaimTicket.transfer,
          LockTicket.transfer, Ticket.transferWith, bind_ok, exists_unit] using h
    obtain ⟨hrecipient, balances, hmove, rfl⟩ := transferBalance_ok h'.2
    exact TicketCalled.transfer (check_ok_iff.mp h'.1) hrecipient hmove
  | transferFrom sender recipient amount =>
    have h' : t.assertAuthorized caller = .ok () ∧
        ∃ allowances, (spend t.allowances sender caller amount : Except TicketPanic _) =
          .ok allowances ∧
          kind.transferBalance { t with allowances } sender recipient amount = .ok t' := by
      cases kind <;>
        simpa [TicketKind.call, TicketKind.transferBalance, ClaimTicket.transferFrom,
          LockTicket.transferFrom, Ticket.transferFromWith, bind_ok, exists_unit] using h
    obtain ⟨hauthorized, allowances, hspend, hbalance⟩ := h'
    obtain ⟨hrecipient, balances, hmove, rfl⟩ := transferBalance_ok hbalance
    exact TicketCalled.transferFrom (check_ok_iff.mp hauthorized) hspend hrecipient hmove
  | approve spender amount =>
    simp only [TicketKind.call, Ticket.approve, bind_ok] at h
    obtain ⟨_, hauthorized, heq⟩ := h
    cases heq
    exact TicketCalled.approve (check_ok_iff.mp hauthorized)
  | mint =>
    have h' : Ticket.mintUnits kind.units t caller = .ok t' := by cases kind <;> exact h
    simp only [Ticket.mintUnits, bind_ok, check_ok_iff, exists_const] at h'
    obtain ⟨hcaller, hunminted, heq⟩ := h'
    cases heq
    exact TicketCalled.mint hcaller hunminted
  | burn =>
    cases kind with
    | claim =>
      simp only [TicketKind.call, ClaimTicket.burn, bind_ok, check_ok_iff, exists_const] at h
      obtain ⟨hcaller, hbalance, heq⟩ := h
      cases heq
      exact TicketCalled.burn hcaller (by rw [hbalance]; rfl) (Or.inl ⟨rfl, rfl, rfl⟩)
    | lock =>
      simp only [TicketKind.call, LockTicket.burn, bind_ok, check_ok_iff, orPanic_ok_iff,
        checkedSub_eq_some, exists_const] at h
      obtain ⟨hcaller, -, left, hleft, supply, hsupply, heq⟩ := h
      cases heq
      exact TicketCalled.burn hcaller hleft (Or.inr ⟨rfl, hsupply⟩)

/-! ## Supply -/

/-- Escrow and pool hold all units there are, and there are none before `mint`. -/
structure Ticket.Sound (kind : TicketKind) (t : Ticket) : Prop where
  support : ∀ a, a ≠ t.escrow → a ≠ t.pool → (t.balances a).val = 0
  total : t.escrow ≠ t.pool → (t.balances t.escrow).val + (t.balances t.pool).val = t.supply.val
  unminted : t.minted = false → t.supply.val = 0 ∧ ∀ a, (t.balances a).val = 0
  capped : t.supply.val ≤ kind.units.val

theorem constructor_ok {escrow pool : ContractAddress} {id : Felt}
    (h : kind.constructor escrow pool id = .ok t) :
    t = ⟨escrow, pool, id, false, 0, fun _ => 0, fun _ _ => 0⟩ := by
  cases kind <;>
    simp only [TicketKind.constructor, ClaimTicket.constructor, LockTicket.constructor,
      Ticket.construct, bind_ok, check_ok_iff, exists_const] at h
  all_goals
    obtain ⟨-, -, -, heq⟩ := h
    cases heq
    rfl

theorem Ticket.Sound.constructor {escrow pool : ContractAddress} {id : Felt}
    (h : kind.constructor escrow pool id = .ok t) : t.Sound kind := by
  rw [constructor_ok h]
  exact ⟨fun _ _ _ => rfl, fun _ => rfl, fun _ => ⟨rfl, fun _ => rfl⟩, Nat.zero_le _⟩

/-- The entry points never change whom a ticket belongs to. -/
theorem TicketCalled.identity (h : TicketCalled kind t caller c t') :
    t'.escrow = t.escrow ∧ t'.pool = t.pool ∧ t'.id = t.id := by
  cases h <;> exact ⟨rfl, rfl, rfl⟩

theorem TicketCalled.supply_eq (h : TicketCalled kind t caller c t') (hcaller : caller ≠ t.escrow) :
    t'.minted = t.minted ∧ t'.supply = t.supply := by
  cases h with
  | transfer | transferFrom | approve => exact ⟨rfl, rfl⟩
  | mint hescrow | burn hescrow => exact absurd hescrow hcaller

/-- A minted ticket stays minted, and its supply never grows. -/
theorem TicketCalled.supply_le (h : TicketCalled kind t caller c t') (hminted : t.minted = true) :
    t'.minted = true ∧ t'.supply.val ≤ t.supply.val := by
  cases h with
  | transfer | transferFrom | approve => exact ⟨hminted, le_refl _⟩
  | mint _ hunminted =>
    rw [hminted] at hunminted
    cases hunminted
  | burn _ _ hsupply =>
    refine ⟨hminted, ?_⟩
    dsimp only
    rcases hsupply with ⟨-, -, rfl⟩ | ⟨-, hsupply⟩
    · exact Nat.zero_le _
    · omega

theorem Ticket.Sound.move {sender recipient : ContractAddress} {balances : ContractAddress → U256}
    {allowances : ContractAddress → ContractAddress → U256} (h : t.Sound kind)
    (hrecipient : recipient = t.escrow ∨ recipient = t.pool)
    (hmove : (App20.Starknet.move t.balances sender recipient amount :
      Except TicketPanic _) = .ok balances) :
    Ticket.Sound kind { t with balances, allowances } := by
  have hval := move_val hmove
  have hsender : sender = t.escrow ∨ sender = t.pool ∨ amount.val = 0 := by
    by_cases he : sender = t.escrow
    · exact Or.inl he
    by_cases hp : sender = t.pool
    · exact Or.inr (Or.inl hp)
    obtain ⟨debited, -, hdebited, -⟩ := move_ok_iff.mp hmove
    have hzero := h.support sender he hp
    exact Or.inr (Or.inr (by omega))
  refine ⟨?_, ?_, ?_, h.capped⟩
  · intro a he hp
    have hzero := h.support a he hp
    have ha := hval a
    have hne : a ≠ recipient := by
      rintro rfl
      rcases hrecipient with heq | heq
      · exact he heq
      · exact hp heq
    rw [if_neg hne] at ha
    dsimp only
    omega
  · intro hne
    have htotal := h.total hne
    have he := hval t.escrow
    have hp := hval t.pool
    dsimp only at hne ⊢
    rcases hsender with rfl | rfl | hzero
    · rcases hrecipient with rfl | rfl <;>
        simp only [hne, hne.symm, if_true, if_false] at he hp <;> omega
    · rcases hrecipient with rfl | rfl <;>
        simp only [hne, hne.symm, if_true, if_false] at he hp <;> omega
    · simp only [hzero, ite_self] at he hp
      omega
  · intro hunminted
    obtain ⟨hsupply, hzero⟩ := h.unminted hunminted
    refine ⟨hsupply, fun a => ?_⟩
    obtain ⟨debited, -, hdebited, -⟩ := move_ok_iff.mp hmove
    have hamount := hzero sender
    have hbefore := hzero a
    have ha := hval a
    dsimp only
    split at ha <;> split at ha <;> omega

theorem Ticket.Sound.called (h : t.Sound kind) (hcalled : TicketCalled kind t caller c t') :
    t'.Sound kind := by
  cases hcalled with
  | transfer _ hrecipient hmove | transferFrom _ _ hrecipient hmove => exact h.move hrecipient hmove
  | approve => exact ⟨h.support, h.total, h.unminted, h.capped⟩
  | mint _ hunminted =>
    obtain ⟨-, hzero⟩ := h.unminted hunminted
    refine ⟨?_, ?_, ?_, le_refl _⟩
    · intro a he hp
      dsimp only
      rw [Function.update_of_ne he]
      exact h.support a he hp
    · intro hne
      dsimp only
      rw [Function.update_self, Function.update_of_ne hne.symm, hzero, Nat.add_zero]
    · intro hminted
      cases hminted
  | @burn left supply _ hleft hsupply =>
    have hcapped := h.capped
    refine ⟨?_, ?_, ?_, ?_⟩
    · intro a he hp
      dsimp only
      rw [Function.update_of_ne he]
      exact h.support a he hp
    · intro hne
      have htotal := h.total hne
      dsimp only at hne ⊢
      rw [Function.update_self, Function.update_of_ne hne.symm]
      rcases hsupply with ⟨rfl, rfl, rfl⟩ | ⟨-, hsupply⟩
      · have hunits : TicketKind.claim.units.val = 1 := rfl
        have hzero : (0 : U256).val = 0 := rfl
        omega
      · omega
    · intro hunminted
      obtain ⟨-, hzero⟩ := h.unminted hunminted
      have := hzero t.escrow
      omega
    · dsimp only
      rcases hsupply with ⟨-, -, rfl⟩ | ⟨-, hsupply⟩
      · exact Nat.zero_le _
      · omega

/-! ## Calls that return -/

theorem Ticket.Sound.held_le (h : t.Sound kind) (hne : t.escrow ≠ t.pool) :
    (t.balances t.escrow).val ≤ t.supply.val ∧ t.supply.val ≤ kind.units.val := by
  have htotal := h.total hne
  exact ⟨by omega, h.capped⟩

theorem Ticket.Sound.send (h : t.Sound kind) (hne : t.escrow ≠ t.pool)
    (hpool : 1 ≤ (t.balances t.pool).val) :
    ∃ t', kind.call t t.pool (.transfer t.escrow 1) = .ok t' := by
  obtain ⟨hheld, hcapped⟩ := h.held_le hne
  have hunits : kind.units.val ≤ 2 := by cases kind <;> decide
  have hfits : (t.balances t.escrow).val + 1 < 2 ^ 256 := by omega
  have hmoves : ∃ balances, (Starknet.move t.balances t.pool t.escrow 1 :
      Except TicketPanic _) = .ok balances := move_succeeds hne hpool hfits
  obtain ⟨balances, hmove⟩ := hmoves
  refine ⟨{ t with balances }, ?_⟩
  cases kind <;>
    simp +decide only [TicketKind.call, ClaimTicket.transfer, LockTicket.transfer,
      Ticket.transferWith, Ticket.assertAuthorized, ClaimTicket.transferBalance,
      LockTicket.transferBalance, or_true, true_or, bind_ok, check_ok_iff, exists_const,
      true_and, hmove] <;>
    exact ⟨_, rfl, rfl⟩

theorem Ticket.Sound.burn (h : t.Sound kind) (hne : t.escrow ≠ t.pool)
    (hheld : 1 ≤ (t.balances t.escrow).val) : ∃ t', kind.call t t.escrow .burn = .ok t' := by
  obtain ⟨hle, hcapped⟩ := h.held_le hne
  cases kind with
  | claim =>
    have hunits : TicketKind.claim.units.val = 1 := rfl
    have hone : t.balances t.escrow = 1 := Fin.ext (by change _ = 1; omega)
    simp only [TicketKind.call, ClaimTicket.burn, bind_ok, check_ok_iff, exists_const]
    exact ⟨_, trivial, hone, rfl⟩
  | lock =>
    obtain ⟨left, hleft⟩ : ∃ left, checkedSub (t.balances t.escrow) 1 = some left :=
      ⟨⟨(t.balances t.escrow).val - 1, by omega⟩, checkedSub_eq_some.mpr (by
        change _ = _ - 1 + 1
        omega)⟩
    obtain ⟨supply, hsupply⟩ : ∃ supply, checkedSub t.supply 1 = some supply :=
      ⟨⟨t.supply.val - 1, by omega⟩, checkedSub_eq_some.mpr (by
        change _ = _ - 1 + 1
        omega)⟩
    simp only [TicketKind.call, LockTicket.burn, bind_ok, check_ok_iff, exists_const,
      orPanic_ok_iff]
    exact ⟨_, trivial, hheld, left, hleft, supply, hsupply, rfl⟩

/-- Whoever holds units of a ticket may approve them. -/
theorem Ticket.Sound.approve (h : t.Sound kind) {spender : ContractAddress}
    (hheld : 0 < (t.balances caller).val) :
    ∃ t', kind.call t caller (.approve spender amount) = .ok t' := by
  have hauthorized : caller = t.escrow ∨ caller = t.pool := by
    by_contra hnot
    rw [not_or] at hnot
    have hzero := h.support caller hnot.1 hnot.2
    omega
  refine ⟨{ t with allowances := allow t.allowances caller spender amount }, ?_⟩
  simp only [TicketKind.call, Ticket.approve, Ticket.assertAuthorized]
  rw [check_pos hauthorized]
  rfl

end App20.Escrow
