import App20.Escrow.Failures

/-!
# The books of the escrow over every run

The two main results about the escrow alone. They hold on every platform: whatever the tokens
answer, and however the other contracts change between the calls.
-/

namespace App20.Escrow

open App20.Lib App20.Lib.Exec App20.Starknet

variable {X : Type}

/-- In every state that a run reaches the accounted balance of every token is the sum of the
escrow's obligations in it, and no call stops at a conservation check or in a subtraction. -/
theorem accounted_eq_owed (P : Platform X) (pool : ContractAddress)
    (ticketClassHash lockTicketClassHash : Felt) (world : X) (now : U64) (steps : List (Step X)) :
    let s := reached P pool ticketClassHash lockTicketClassHash world now steps
    (∀ token, (s.state.storage.accounted token).val = owed s.state.storage token) ∧
    ∀ caller transactionHash c e, Fails (execute P ⟨caller, s.now, transactionHash⟩ c) s.state e →
      e ≠ .error .conservationFailure ∧ e ≠ .underflow := by
  intro s
  have hsound : Sound s := sound_run pool ticketClassHash lockTicketClassHash world now steps
  refine ⟨hsound.booked.accounted_eq, ?_⟩
  intro caller transactionHash c e hfails
  have havoids := execute_avoids hsound caller transactionHash c e hfails
  exact ⟨fun he => havoids (Or.inl he), fun he => havoids (Or.inr (Or.inr he))⟩

/-- In every state that a run reaches a lock is untouched or has been taken exactly once, it is
closed exactly when both payouts have been made, and each payout has been made at most once and
in the exact amount; no call stops because a lock has too little left. -/
theorem lock_lifecycle (P : Platform X) (pool : ContractAddress)
    (ticketClassHash lockTicketClassHash : Felt) (world : X) (now : U64) (steps : List (Step X)) :
    let s := reached P pool ticketClassHash lockTicketClassHash world now steps
    (∀ id,
      let l := s.state.storage.locks id
      let takings := s.state.events.countP (Event.takesLock id)
      ((l.Untouched ∧ takings = 0) ∨ (l.TakenOnce ∧ takings = 1)) ∧
      (l.status = .closed ↔ l.proceedsSettled = true ∧ l.collateralReleased = true) ∧
      PaidOnce l.proceedsSettled .settleProceeds id l.tokenA l.earnedA
        (s.receipts.filter (Receipt.settlesLock id)) ∧
      PaidOnce l.collateralReleased .releaseCollateral id l.tokenB l.remainingB
        (s.receipts.filter (Receipt.releasesLock id))) ∧
    ∀ caller transactionHash c,
      ¬ Fails (execute P ⟨caller, s.now, transactionHash⟩ c) s.state
        (.error .insufficientLock) := by
  intro s
  have hsound : Sound s := sound_run pool ticketClassHash lockTicketClassHash world now steps
  refine ⟨?_, ?_⟩
  · intro id
    have hlock := hsound.locks id
    refine ⟨?_, hlock.closed_iff, hlock.settled, hlock.released⟩
    rcases hlock.progress with huntouched | ⟨htaken, hcount, -⟩
    · exact Or.inl huntouched
    · exact Or.inr ⟨htaken, hcount⟩
  · intro caller transactionHash c hfails
    exact execute_avoids hsound caller transactionHash c _ hfails (Or.inr (Or.inl rfl))

end App20.Escrow
