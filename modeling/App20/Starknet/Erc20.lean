import App20.Lib.Exec
import App20.Starknet.Types

/-!
# ERC-20 tokens

The token of the test harness (`mock_erc20`), which moves exactly the requested amount or
reverts. `move` and `spend` are the balance and allowance updates that it shares with the
tickets of the escrow.
-/

namespace App20.Starknet

open App20.Lib
open Function (update update_self update_of_ne)

/-! ## Balances and allowances -/

section Updates

variable {ε : Type}

/-- `balances[sender] -= amount`, then `balances[recipient] += amount`. -/
def move (balances : ContractAddress → U256) (sender recipient : ContractAddress) (amount : U256) :
    Except (Panic ε) (ContractAddress → U256) := do
  let debited ← orPanic (checkedSub (balances sender) amount) .underflow
  let balances := update balances sender debited
  let credited ← orPanic (checkedAdd (balances recipient) amount) .overflow
  return update balances recipient credited

/-- `allowances[(owner, spender)] = amount`. -/
def allow (allowances : ContractAddress → ContractAddress → U256)
    (owner spender : ContractAddress) (amount : U256) : ContractAddress → ContractAddress → U256 :=
  update allowances owner (update (allowances owner) spender amount)

/-- `allowances[(owner, spender)] -= amount`. -/
def spend (allowances : ContractAddress → ContractAddress → U256)
    (owner spender : ContractAddress) (amount : U256) :
    Except (Panic ε) (ContractAddress → ContractAddress → U256) := do
  let left ← orPanic (checkedSub (allowances owner spender) amount) .underflow
  return allow allowances owner spender left

variable {balances : ContractAddress → U256} {sender recipient : ContractAddress} {amount : U256}

theorem move_ok_iff {balances' : ContractAddress → U256} :
    (move balances sender recipient amount : Except (Panic ε) _) = .ok balances' ↔
      ∃ debited credited, (balances sender).val = debited.val + amount.val ∧
        credited.val = (update balances sender debited recipient).val + amount.val ∧
        balances' = update (update balances sender debited) recipient credited := by
  simp only [move, bind_ok, orPanic_ok_iff, checkedSub_eq_some, checkedAdd_eq_some]
  constructor
  · rintro ⟨debited, hdebited, credited, hcredited, h⟩
    cases h
    exact ⟨debited, credited, hdebited, hcredited, rfl⟩
  · rintro ⟨debited, credited, hdebited, hcredited, rfl⟩
    exact ⟨debited, hdebited, credited, hcredited, rfl⟩

/-- Nobody but the sender loses anything, and nobody but the recipient gains anything. -/
theorem move_val {balances' : ContractAddress → U256}
    (h : (move balances sender recipient amount : Except (Panic ε) _) = .ok balances')
    (account : ContractAddress) :
    (balances' account).val + (if account = sender then amount.val else 0) =
      (balances account).val + (if account = recipient then amount.val else 0) := by
  obtain ⟨debited, credited, hdebited, hcredited, rfl⟩ := move_ok_iff.mp h
  by_cases hr : account = recipient <;> by_cases hs : account = sender
  · subst hr hs
    rw [update_self] at hcredited ⊢
    rw [if_pos rfl]
    omega
  · subst hr
    rw [update_of_ne hs] at hcredited
    rw [update_self, if_neg hs, if_pos rfl]
    omega
  · subst hs
    rw [update_of_ne hr, update_self, if_pos rfl, if_neg hr]
    omega
  · rw [update_of_ne hr, update_of_ne hs, if_neg hs, if_neg hr]

/-- A move between two accounts only needs the amount to be there and the result to fit. -/
theorem move_succeeds (hne : recipient ≠ sender) (hsender : amount.val ≤ (balances sender).val)
    (hrecipient : (balances recipient).val + amount.val < 2 ^ 256) :
    ∃ balances', (move balances sender recipient amount : Except (Panic ε) _) = .ok balances' := by
  refine ⟨_, move_ok_iff.mpr ⟨⟨(balances sender).val - amount.val, by omega⟩,
    ⟨(balances recipient).val + amount.val, hrecipient⟩, ?_, ?_, rfl⟩⟩
  · dsimp only
    omega
  · rw [update_of_ne hne]

theorem spend_ok_iff {allowances allowances' : ContractAddress → ContractAddress → U256}
    {owner spender : ContractAddress} :
    (spend allowances owner spender amount : Except (Panic ε) _) = .ok allowances' ↔
      ∃ left, (allowances owner spender).val = left.val + amount.val ∧
        allowances' = allow allowances owner spender left := by
  simp only [spend, bind_ok, orPanic_ok_iff, checkedSub_eq_some]
  constructor
  · rintro ⟨left, hleft, h⟩
    cases h
    exact ⟨left, hleft, rfl⟩
  · rintro ⟨left, hleft, rfl⟩
    exact ⟨left, hleft, rfl⟩

theorem allow_apply (allowances : ContractAddress → ContractAddress → U256)
    (owner spender : ContractAddress) (amount : U256) (o s : ContractAddress) :
    allow allowances owner spender amount o s =
      if o = owner ∧ s = spender then amount else allowances o s := by
  unfold allow
  by_cases ho : o = owner
  · subst ho
    rw [update_self, Function.update_apply]
    simp only [true_and]
  · rw [update_of_ne ho, if_neg fun hand => ho hand.1]

theorem spend_val {allowances allowances' : ContractAddress → ContractAddress → U256}
    {owner spender : ContractAddress}
    (h : (spend allowances owner spender amount : Except (Panic ε) _) = .ok allowances')
    (o s : ContractAddress) :
    (allowances' o s).val + (if o = owner ∧ s = spender then amount.val else 0) =
      (allowances o s).val := by
  obtain ⟨left, hleft, rfl⟩ := spend_ok_iff.mp h
  rw [allow_apply]
  split
  · next heq => rw [heq.1, heq.2, hleft]
  · exact Nat.add_zero _

end Updates

/-- The entry points of token contracts that change their state. -/
inductive TokenCall where
  | transfer (recipient : ContractAddress) (amount : U256)
  | transferFrom (sender recipient : ContractAddress) (amount : U256)
  | approve (spender : ContractAddress) (amount : U256)
  | mint
  | burn

/-! ## The token -/

structure Erc20 where
  balances : ContractAddress → U256
  allowances : ContractAddress → ContractAddress → U256

namespace Erc20

/-- The token has no error constants of its own. -/
abbrev Error := Empty

def constructor (recipient : ContractAddress) (supply : U256) : Erc20 :=
  ⟨update (fun _ => 0) recipient supply, fun _ _ => 0⟩

def transfer (t : Erc20) (caller recipient : ContractAddress) (amount : U256) :
    Except (Panic Error) Erc20 := do
  let balances ← move t.balances caller recipient amount
  return { t with balances }

def transferFrom (t : Erc20) (caller sender recipient : ContractAddress) (amount : U256) :
    Except (Panic Error) Erc20 := do
  let allowances ← spend t.allowances sender caller amount
  let balances ← move t.balances sender recipient amount
  return { balances, allowances }

def approve (t : Erc20) (caller spender : ContractAddress) (amount : U256) : Erc20 :=
  { t with allowances := allow t.allowances caller spender amount }

def call (t : Erc20) (caller : ContractAddress) : TokenCall → Except (Panic Error) Erc20
  | .transfer recipient amount => t.transfer caller recipient amount
  | .transferFrom sender recipient amount => t.transferFrom caller sender recipient amount
  | .approve spender amount => .ok (t.approve caller spender amount)
  | .mint => .error .callReverted
  | .burn => .error .callReverted

end Erc20

end App20.Starknet
