import Mathlib.Tactic.Common

/-!
# Custody of one token by a custodian that never transfers

A custodian holds an amount of a token, owes a part of it to its clients, and pays by approving
an amount that a collector fetches later. It recognises funding by a difference: it takes a
snapshot of what it holds, and accepts exactly what the holding has grown by since.

`Covered` says that what is owed and what is waiting to be fetched are both there. It is an
invariant exactly as long as nothing happens between a snapshot and its use that raises the
claims on the holding (`Move.covered_iff`); for a token that only moves by transfers this is
automatic (`Move.sealed`), for one that the custodian itself issues and destroys it is not.
-/

namespace App20.Lib

/-- One token in custody. `snapshot` is the holding at the last snapshot that is not used up,
and `accepted` the sum of the fundings accepted so far. -/
structure Purse where
  held : Nat
  owed : Nat
  pending : Nat
  snapshot : Option Nat
  accepted : Nat

namespace Purse

inductive Action where
  /-- Others pay in, and the collector fetches some of what is pending. -/
  | collect
  | prepare
  | accept (amount : Nat)
  /-- Pay by approval; an approval replaces what is left of the one before. -/
  | promise (amount : Nat)
  /-- The custodian issues units to itself and approves them. -/
  | issue (amount : Nat)
  /-- The custodian destroys the one unit it holds beyond what it owes. -/
  | burn
  /-- A burn and a promise in the same token. -/
  | redeem (amount : Nat)

inductive Move (p p' : Purse) : Action → Prop where
  | collect {fetched paid : Nat} (held_eq : p'.held + fetched = p.held + paid)
      (owed_eq : p'.owed = p.owed) (pending_eq : p'.pending + fetched = p.pending)
      (snapshot_eq : p'.snapshot = p.snapshot) (accepted_eq : p'.accepted = p.accepted) :
      Move p p' .collect
  | prepare (held_eq : p'.held = p.held) (owed_eq : p'.owed = p.owed)
      (pending_eq : p'.pending = p.pending) (snapshot_eq : p'.snapshot = some p.held)
      (accepted_eq : p'.accepted = p.accepted) : Move p p' .prepare
  | accept {before amount : Nat} (prepared : p.snapshot = some before)
      (grown : p.held = before + amount) (held_eq : p'.held = p.held)
      (owed_eq : p'.owed = p.owed + amount) (pending_eq : p'.pending = p.pending)
      (snapshot_eq : p'.snapshot = none) (accepted_eq : p'.accepted = p.accepted + amount) :
      Move p p' (.accept amount)
  | promise {amount : Nat} (covered : p.owed ≤ p.held) (held_eq : p'.held = p.held)
      (owed_eq : p.owed = p'.owed + amount) (pending_eq : p'.pending = amount)
      (snapshot_eq : p'.snapshot = p.snapshot) (accepted_eq : p'.accepted = p.accepted) :
      Move p p' (.promise amount)
  | issue {amount : Nat} (held_eq : p'.held = p.held + amount) (owed_eq : p'.owed = p.owed)
      (pending_eq : p'.pending = amount) (snapshot_eq : p'.snapshot = p.snapshot)
      (accepted_eq : p'.accepted = p.accepted) : Move p p' (.issue amount)
  | burn (held_eq : p.held = p'.held + 1) (exact : p'.held = p'.owed) (owed_eq : p'.owed = p.owed)
      (pending_eq : p'.pending = p.pending) (snapshot_eq : p'.snapshot = p.snapshot)
      (accepted_eq : p'.accepted = p.accepted) : Move p p' .burn
  | redeem {amount : Nat} (held_eq : p.held = p'.held + 1) (exact : p'.held = p.owed)
      (owed_eq : p.owed = p'.owed + amount) (pending_eq : p'.pending = amount)
      (snapshot_eq : p'.snapshot = p.snapshot) (accepted_eq : p'.accepted = p.accepted) :
      Move p p' (.redeem amount)

/-- The holding covers what is owed and what is waiting to be fetched. -/
def Covered (p : Purse) : Prop := p.owed + p.pending ≤ p.held

/-- The condition under which an action keeps the purse covered. -/
def Clear (p : Purse) : Action → Prop
  | .accept _ => ∀ before, p.snapshot = some before → p.owed + p.pending ≤ before
  | .burn => p.pending = 0
  | _ => True

variable {p p' : Purse} {a : Action}

/-- A collection of nothing. -/
theorem Move.idle (held_eq : p'.held = p.held) (owed_eq : p'.owed = p.owed)
    (pending_eq : p'.pending = p.pending) (snapshot_eq : p'.snapshot = p.snapshot)
    (accepted_eq : p'.accepted = p.accepted) : Move p p' .collect :=
  Move.collect (congrArg (· + 0) held_eq) owed_eq pending_eq snapshot_eq accepted_eq

/-- From a covered purse, an action leads to a covered one exactly when it is clear. -/
theorem Move.covered_iff (h : Move p p' a) (hp : p.Covered) : p'.Covered ↔ p.Clear a := by
  unfold Covered at hp ⊢
  cases h with
  | collect | prepare | promise | issue | redeem =>
    simp only [Clear, iff_true]
    omega
  | accept hprepared =>
    simp only [Clear, hprepared, Option.some.injEq, forall_eq']
    omega
  | burn =>
    simp only [Clear]
    omega

/-! ## Tokens that only move by transfers -/

/-- The actions of a custodian that issues nothing. -/
def Action.Plain : Action → Prop
  | .collect | .prepare | .accept _ | .promise _ => True
  | _ => False

/-- An unused snapshot still covers all claims. -/
def Sealed (p : Purse) : Prop := ∀ before, p.snapshot = some before → p.owed + p.pending ≤ before

theorem Sealed.clear (h : p.Sealed) (ha : a.Plain) : p.Clear a := by
  cases a with
  | accept amount => exact h
  | collect | prepare | promise => trivial
  | issue | burn | redeem => cases ha

/-- Plain actions keep a covered purse covered, and its snapshots good. -/
theorem Move.sealed (h : Move p p' a) (ha : a.Plain) (hp : p.Covered) (hs : p.Sealed) :
    p'.Covered ∧ p'.Sealed := by
  refine ⟨(h.covered_iff hp).mpr (hs.clear ha), ?_⟩
  intro before hbefore
  cases h with
  | collect _ _ _ hsnapshot | promise _ _ _ _ hsnapshot =>
    have := hs before (hsnapshot.symm.trans hbefore)
    omega
  | prepare _ _ _ hsnapshot =>
    have hheld := Option.some.inj (hsnapshot.symm.trans hbefore)
    unfold Covered at hp
    omega
  | accept _ _ _ _ _ hsnapshot =>
    rw [hsnapshot] at hbefore
    cases hbefore
  | issue | burn | redeem => cases ha

/-! ## What has been accepted -/

/-- The growth of the holding that an unused snapshot would recognise. -/
def gap (p : Purse) : Nat :=
  match p.snapshot with
  | some before => p.held - before
  | none => 0

theorem gap_some {before : Nat} (h : p.snapshot = some before) : p.gap = p.held - before := by
  unfold gap
  rw [h]

theorem gap_none (h : p.snapshot = none) : p.gap = 0 := by
  unfold gap
  rw [h]

/-- The gap grows by no more than the holding. -/
theorem gap_le (h : p'.snapshot = p.snapshot) : p'.gap ≤ p.gap + (p'.held - p.held) := by
  cases hs : p.snapshot with
  | none =>
    rw [gap_none (h.trans hs)]
    exact Nat.zero_le _
  | some before =>
    rw [gap_some (h.trans hs), gap_some hs]
    omega

/-- Nothing is accepted twice: what is accepted, or could be, grows by no more than the
holding. -/
theorem Move.accepted_le (h : Move p p' a) :
    p'.accepted + p'.gap ≤ p.accepted + p.gap + (p'.held - p.held) := by
  cases h with
  | prepare _ _ _ hsnapshot =>
    rw [gap_some hsnapshot]
    omega
  | accept hprepared _ _ _ _ hsnapshot =>
    rw [gap_some hprepared, gap_none hsnapshot]
    omega
  | collect _ _ _ hsnapshot | promise _ _ _ _ hsnapshot | issue _ _ _ hsnapshot
  | burn _ _ _ _ hsnapshot | redeem _ _ _ _ hsnapshot =>
    have := gap_le hsnapshot
    omega

end Purse

end App20.Lib
