import App20.Escrow.Accounting

/-!
# Errors that no call stops with

The checks of the escrow against its own books (`CONSERVATION_FAILURE`, `INSUFFICIENT_LOCK` and
the panics of its subtractions) never fail in a state whose books are right.
-/

namespace App20.Escrow

open App20.Lib App20.Lib.Exec App20.Starknet

/-- The errors that would show the books to be wrong. -/
def Internal (e : EscrowPanic) : Prop :=
  e = .error .conservationFailure ∨ e = .error .insufficientLock ∨ e = .underflow

instance : DecidablePred Internal := fun _ => inferInstanceAs (Decidable (_ ∨ _ ∨ _))

variable {X : Type} {P : Platform X}

/-! ## Helpers -/

variable {token pool : ContractAddress} {s : State X} {cx : CallContext}
  {dealId lockId noteId id : Felt} {fills : List TakeFill}

theorem approvePool_avoids {amount : U256} :
    Avoids (approvePool P token pool amount) s Internal := by
  simp +decide only [approvePool, avoids_external_bind, avoids_assert, implies_true, and_self]

theorem payOut_avoids {amount : U128} (h : amount.val ≤ (s.storage.accounted token).val) :
    Avoids (payOut P token amount) s Internal := by
  simp +decide only [payOut, avoids_external_bind, avoids_readStorage_bind, avoids_assert_bind,
    avoids_expect_bind, avoids_writeStorage, checkedSub_eq_none, into_val, h,
    Nat.not_lt.mpr h, implies_true, and_self]

theorem consumeTicket_avoids {ticket : ContractAddress} :
    Avoids (consumeTicket P ticket) s Internal := by
  simp +decide only [consumeTicket, avoids_external_bind, avoids_readStorage_bind,
    avoids_assert_bind, avoids_expect_bind, avoids_assert, checkedSub_eq_none, implies_true,
    and_true, true_and]
  intro _ _ _ hle hlt
  exact absurd hle (Nat.not_le_of_lt hlt)

theorem consumeFunding_avoids {expected : U256} :
    Avoids (consumeFunding P cx token expected) s Internal := by
  simp +decide only [consumeFunding, avoids_external_bind, avoids_readStorage_bind,
    avoids_writeStorage_bind, avoids_assert_bind, avoids_expect_bind, avoids_assert,
    checkedSub_eq_none, implies_true, and_true, true_and]
  intro _ _ _ _ _ hle _ hlt
  exact absurd hle (Nat.not_le_of_lt hlt)

theorem ensureTicketInternal_avoids : Avoids (ensureTicketInternal P dealId) s Internal := by
  simp +decide only [ensureTicketInternal, avoids_assert_bind, avoids_readStorage_bind,
    implies_true, true_and]
  intro _
  split
  · exact avoids_pure
  · simp +decide only [avoids_external_bind, avoids_writeStorage_bind, avoids_pure,
      implies_true, and_self]

theorem ensureLockTicketInternal_avoids :
    Avoids (ensureLockTicketInternal P lockId) s Internal := by
  simp +decide only [ensureLockTicketInternal, avoids_assert_bind, avoids_readStorage_bind,
    implies_true, true_and]
  intro _
  split
  · exact avoids_pure
  · simp +decide only [avoids_external_bind, avoids_writeStorage_bind, avoids_pure,
      implies_true, and_self]

theorem prepareFunding_avoids : Avoids (prepareFunding P cx token) s Internal := by
  simp +decide only [prepareFunding, avoids_assert_bind, avoids_external_bind,
    avoids_readStorage_bind, avoids_writeStorage, implies_true, and_self]

/-- A rejected evaluation is the caller's fault. -/
theorem evaluateSchedule_avoids {s : Schedule} {x : U128} {e : EscrowPanic}
    (h : evaluateSchedule s x = .error e) : ¬ Internal e := by
  rcases evaluateSchedule_error_iff.mp h with ⟨-, rfl⟩ | ⟨-, -, rfl⟩
  · decide
  · decide

/-! ## Deals -/

theorem fund_avoids {params : FundParams} :
    Avoids (fund P cx dealId noteId params pool) s Internal := by
  simp +decide only [fund, avoids_assert_bind, avoids_readStorage_bind, implies_true, true_and]
  intro _ _ _ _ _ _ _ _
  rw [avoids_bind_iff (fun _ _ => returns_ensureTicketInternal) ensureTicketInternal_avoids]
  intro ticket w1 _
  rw [avoids_readStorage_bind,
    avoids_bind_iff (fun _ _ => returns_consumeFunding) consumeFunding_avoids]
  intro _ w2 _
  simp +decide only [avoids_expect_bind, avoids_writeStorage_bind, avoids_external_bind,
    implies_true, true_and]
  intro _ _ _ _ _
  rw [avoids_bind_iff (fun _ _ => returns_approvePool) approvePool_avoids]
  simp only [avoids_emit_bind, avoids_pure, implies_true]

theorem fill_avoids {params : FillParams} (h : Booked s.storage) :
    Avoids (fill P cx dealId noteId params pool) s Internal := by
  simp +decide only [fill, avoids_assert_bind, avoids_readStorage_bind, avoids_external_bind,
    avoids_expect_bind, implies_true, true_and]
  intro hfunded _ _ balance w1 _ _
  have hcovered := dealOwes_le h dealId (s.storage.deals dealId).legAToken
  rw [dealOwes_legA hfunded, if_pos rfl] at hcovered
  refine ⟨fun hlt => absurd hcovered hlt, fun _ => ⟨fun hnone => ?_, fun afterA _ => ?_⟩⟩
  · rw [checkedSub_eq_none] at hnone
    exact absurd hcovered (Nat.not_le_of_lt hnone)
  · rw [avoids_bind_iff (fun _ _ => returns_consumeFunding) consumeFunding_avoids]
    intro _ w2 _
    simp +decide only [avoids_writeStorage_bind, avoids_expect_bind, implies_true, true_and]
    intro afterB _
    rw [avoids_bind_iff (fun _ _ => returns_approvePool) approvePool_avoids]
    simp only [avoids_emit_bind, avoids_pure, implies_true]

theorem claim_avoids (h : Booked s.storage) : Avoids (claim P dealId noteId pool) s Internal := by
  simp +decide only [claim, avoids_assert_bind, avoids_readStorage_bind, implies_true, true_and]
  intro hfilled
  have hcovered := dealOwes_le h dealId (s.storage.deals dealId).legBToken
  rw [dealOwes_legB hfilled, if_pos rfl] at hcovered
  rw [avoids_bind_iff (fun _ _ => returns_consumeTicket) consumeTicket_avoids]
  intro _ w1 _
  rw [avoids_bind]
  refine ⟨payOut_avoids hcovered, fun _ s1 _ => ?_⟩
  rw [avoids_writeStorage_bind, avoids_bind_iff (fun _ _ => returns_approvePool) approvePool_avoids]
  simp only [avoids_emit_bind, avoids_pure, implies_true]

theorem timeout_avoids (h : Booked s.storage) :
    Avoids (timeout P cx dealId noteId pool) s Internal := by
  simp +decide only [timeout, avoids_assert_bind, avoids_readStorage_bind, implies_true, true_and]
  intro hfunded _
  have hcovered := dealOwes_le h dealId (s.storage.deals dealId).legAToken
  rw [dealOwes_legA hfunded, if_pos rfl] at hcovered
  rw [avoids_bind_iff (fun _ _ => returns_consumeTicket) consumeTicket_avoids]
  intro _ w1 _
  rw [avoids_bind]
  refine ⟨payOut_avoids hcovered, fun _ s1 _ => ?_⟩
  rw [avoids_writeStorage_bind, avoids_bind_iff (fun _ _ => returns_approvePool) approvePool_avoids]
  simp only [avoids_emit_bind, avoids_pure, implies_true]

/-! ## Locks -/

theorem lock_avoids {params : LockParams} :
    Avoids (lock P cx lockId noteId params pool) s Internal := by
  simp +decide only [lock, avoids_assert_bind, avoids_readStorage_bind, avoids_lift_bind,
    implies_true, true_and]
  intro _ _ _ _ _ _
  refine ⟨fun _ he => evaluateSchedule_avoids he, fun _ _ => ?_⟩
  rw [avoids_bind_iff (fun _ _ => returns_ensureLockTicketInternal) ensureLockTicketInternal_avoids]
  intro ticket w1 _
  rw [avoids_readStorage_bind,
    avoids_bind_iff (fun _ _ => returns_consumeFunding) consumeFunding_avoids]
  intro _ w2 _
  simp +decide only [avoids_expect_bind, avoids_writeStorage_bind, avoids_external_bind,
    implies_true, true_and]
  intro _ _ _ _ _
  rw [avoids_bind_iff (fun _ _ => returns_approvePool) approvePool_avoids]
  simp only [avoids_emit_bind, avoids_pure, implies_true]

theorem payOutPositive_avoids {amount : U128} (h : amount.val ≤ (s.storage.accounted token).val) :
    Avoids (payOutPositive P token pool amount) s Internal := by
  unfold payOutPositive
  split
  · rw [avoids_bind]
    exact ⟨payOut_avoids h, fun _ _ _ => approvePool_avoids⟩
  · exact avoids_pure

theorem earnedA_le {s : Storage} (h : Booked s) (hflag : (s.locks id).proceedsSettled = false) :
    (s.locks id).earnedA.val ≤ (s.accounted (s.locks id).tokenA).val := by
  have hle := lockOwes_le h id (s.locks id).tokenA
  unfold lockOwes at hle
  rw [if_pos (⟨rfl, hflag⟩ : _ ∧ _)] at hle
  omega

theorem remainingB_le {s : Storage} (h : Booked s) (hflag : (s.locks id).collateralReleased = false) :
    (s.locks id).remainingB.val ≤ (s.accounted (s.locks id).tokenB).val := by
  have hle := lockOwes_le h id (s.locks id).tokenB
  unfold lockOwes at hle
  rw [if_pos (⟨rfl, hflag⟩ : _ ∧ _)] at hle
  omega

theorem settleProceeds_avoids (h : Booked s.storage) :
    Avoids (settleProceeds P cx lockId noteId pool) s Internal := by
  simp +decide only [settleProceeds, avoids_assert_bind, avoids_readStorage_bind, implies_true,
    true_and]
  intro hunsettled _ _
  rw [avoids_bind_iff (fun _ _ => returns_consumeTicket) consumeTicket_avoids]
  intro _ w1 _
  rw [avoids_bind]
  refine ⟨payOutPositive_avoids (earnedA_le h hunsettled), fun _ s1 _ => ?_⟩
  simp only [avoids_writeStorage_bind, avoids_emit_bind, avoids_pure]

theorem releaseCollateral_avoids (h : Booked s.storage) :
    Avoids (releaseCollateral P cx lockId noteId pool) s Internal := by
  simp +decide only [releaseCollateral, avoids_assert_bind, avoids_readStorage_bind,
    implies_true, true_and]
  intro hunreleased _ _
  rw [avoids_bind_iff (fun _ _ => returns_consumeTicket) consumeTicket_avoids]
  intro _ w1 _
  rw [avoids_bind]
  refine ⟨payOutPositive_avoids (remainingB_le h hunreleased), fun _ s1 _ => ?_⟩
  simp only [avoids_writeStorage_bind, avoids_emit_bind, avoids_pure]

/-! ## Takes -/

theorem assertDistinctFills_avoids : Avoids (assertDistinctFills fills) s Internal := by
  induction fills with
  | nil => exact avoids_pure
  | cons fill fills ih =>
    rw [assertDistinctFills, avoids_assert_bind]
    exact ⟨fun _ => by decide, fun _ => ih⟩

/-- The checking loop, when the open locks of the RFQ have enough left. -/
theorem checkFills_avoids {params : TakeParams} :
    ∀ {acc : FillCheck} {s : State X}, (∀ id amountA amountB, (s.storage.locks id).rfqId = dealId →
        evaluateLockSchedule (s.storage.locks id) amountA = .ok amountB →
        amountB.val ≤ (s.storage.locks id).remainingB.val) →
      Avoids (fills.foldlM (checkFill cx dealId params) acc) s Internal := by
  induction fills with
  | nil =>
    intro acc s _
    exact avoids_pure
  | cons fill fills ih =>
    intro acc s henough
    rw [List.foldlM_cons, avoids_bind]
    refine ⟨?_, fun acc' u hret => ?_⟩
    · simp +decide only [checkFill, avoids_readStorage_bind, avoids_assert_bind,
        avoids_lift_bind, avoids_expect_bind, avoids_pure, implies_true, true_and, and_true]
      intro _ _ hrfq _ _
      refine ⟨fun _ he => evaluateSchedule_avoids he, fun amountB heval hlt => ?_⟩
      exact absurd (henough _ _ _ hrfq heval) hlt
    · obtain ⟨hu, -, -⟩ := returns_checkFill hret
      rw [hu]
      exact ih henough

/-- The updating loop, when the lock of each fill has enough left; a lock named once is still
as it was when its turn comes. -/
theorem applyFills_avoids :
    ∀ {u : Unit} {s : State X}, fills.Pairwise (fun fill other => fill.lockId ≠ other.lockId) →
      (∀ fill ∈ fills, ∀ amountB,
        evaluateLockSchedule (s.storage.locks fill.lockId) fill.amountA = .ok amountB →
        amountB.val ≤ (s.storage.locks fill.lockId).remainingB.val) →
      Avoids (fills.foldlM (fun _ fill => (applyFill dealId fill : EscrowM X Unit)) u) s
        Internal := by
  induction fills with
  | nil =>
    intro u s _ _
    exact avoids_pure
  | cons fill fills ih =>
    intro u s hdistinct henough
    obtain ⟨hhead, htail⟩ := List.pairwise_cons.mp hdistinct
    obtain ⟨hfill, hfills⟩ := List.forall_mem_cons.mp henough
    rw [List.foldlM_cons, avoids_bind]
    refine ⟨?_, fun v s1 hret => ?_⟩
    · simp +decide only [applyFill, avoids_readStorage_bind, avoids_lift_bind,
        avoids_expect_bind, avoids_writeStorage_bind, avoids_emit, checkedSub_eq_none,
        implies_true, and_true]
      refine ⟨fun _ he => evaluateSchedule_avoids he, fun amountB heval hlt => ?_⟩
      exact absurd (hfill amountB heval) (Nat.not_le_of_lt hlt)
    · obtain ⟨amountB, l', -, rfl⟩ := returns_applyFill.mp hret
      refine ih htail fun other hother => ?_
      have hne := (hhead other hother).symm
      simp only [Storage.setLock, Function.update_of_ne hne]
      exact hfills other hother

theorem remaining_enough {s : Sys X} (h : ∀ id, LockSoundAt s id)
    (hfresh : (s.state.storage.takes dealId).fillCount = 0)
    (hrfq : (s.state.storage.locks id).rfqId = dealId) {amountA amountB : U128}
    (heval : evaluateLockSchedule (s.state.storage.locks id) amountA = .ok amountB) :
    amountB.val ≤ (s.state.storage.locks id).remainingB.val := by
  subst hrfq
  rw [((h id).untouched hfresh).1.remainingB_eq]
  exact (evaluateSchedule_bounds heval).2.2.2

/-- The collateral of the filled locks covers what the fills cost. -/
theorem fillsB_le {s : Storage} (h : Booked s) {locks' : Felt → Lock} {events : List Event}
    (happlied : Applied dealId fills s.locks locks' events) {tokenA tokenB : ContractAddress}
    (htokens : tokenA ≠ tokenB)
    (hholding : ∀ fill ∈ fills, Holding tokenA tokenB (s.locks fill.lockId)) :
    (fills.map (fillB s.locks)).sum ≤ (s.accounted tokenB).val := by
  have hmoved := happlied.owed hholding tokenB
  rw [if_pos rfl, if_neg htokens] at hmoved
  rw [h.accounted_eq, owed]
  omega

theorem take_avoids {caller : ContractAddress} {transactionHash : Felt} {params : TakeParams}
    {identityCommitment : Felt} {s : Sys X} (h : Sound s) :
    Avoids (take P ⟨caller, s.now, transactionHash⟩ dealId noteId params pool identityCommitment)
      s.state Internal := by
  simp +decide only [take, avoids_assert_bind, avoids_readStorage_bind, implies_true, true_and]
  intro _ _ hfresh _ _
  rw [avoids_bind]
  refine ⟨assertDistinctFills_avoids, fun _ s1 hasserted => ?_⟩
  obtain ⟨hdistinct, hs1⟩ := returns_assertDistinctFills.mp hasserted
  subst s1
  simp +decide only [avoids_assert_bind, implies_true, true_and]
  intro _ _ htokens
  rw [avoids_bind]
  refine ⟨avoids_foldlM fun _ _ _ _ => avoids_expect.mpr fun _ => by decide,
    fun expectedA s1 hsumA => ?_⟩
  obtain ⟨hs1, -⟩ := returns_sumA hsumA
  subst s1
  rw [avoids_readStorage_bind,
    avoids_bind_iff (fun _ _ => returns_consumeFunding) consumeFunding_avoids]
  intro _ w1 _
  rw [avoids_bind]
  refine ⟨checkFills_avoids fun _ _ _ hrfq heval => remaining_enough h.locks hfresh hrfq heval,
    fun checked s1 hchecks => ?_⟩
  obtain ⟨hs1, hfillable, htotalB⟩ := returns_checkFills hchecks
  subst s1
  simp +decide only [avoids_assert_bind, implies_true, true_and]
  intro _
  rw [avoids_bind]
  refine ⟨applyFills_avoids hdistinct fun fill hmem _ heval =>
    remaining_enough h.locks hfresh (hfillable fill hmem).rfqId_eq heval, fun _ s1 hupdates => ?_⟩
  obtain ⟨locks', events, happlied, hs1⟩ := returns_applyFills hupdates
  subst s1
  have hcovered : checked.totalB.val ≤ (s.state.storage.accounted params.counterToken).val := by
    rw [htotalB]
    refine le_trans (le_of_eq (Nat.zero_add _)) (fillsB_le h.booked happlied htokens ?_)
    intro fill hmem
    have hunpaid := (h.locks fill.lockId).unpaid (hfillable fill hmem).open_
    exact (hfillable fill hmem).holding ⟨hunpaid.1, hunpaid.2.1⟩
  simp +decide only [avoids_expect_bind, avoids_external_bind, avoids_readStorage_bind,
    avoids_assert_bind, avoids_writeStorage_bind, implies_true, true_and]
  intro totalA _ totalB _ balanceB w2 _ _
  refine ⟨fun hlt => absurd hcovered hlt, fun _ nextA _ => ⟨fun hnone => ?_, ?_⟩⟩
  · rw [checkedSub_eq_none] at hnone
    exact absurd hcovered (Nat.not_le_of_lt hnone)
  · intro nextB _ fillCount _
    rw [avoids_bind_iff (fun _ _ => returns_approvePool) approvePool_avoids]
    simp only [avoids_emit_bind, avoids_pure, implies_true]

/-! ## All calls -/

theorem execute_avoids {s : Sys X} (h : Sound s) (caller : ContractAddress)
    (transactionHash : Felt) (c : Call) :
    Avoids (execute P ⟨caller, s.now, transactionHash⟩ c) s.state Internal := by
  cases c with
  | prepareFunding token =>
    rw [execute, avoids_bind]
    exact ⟨prepareFunding_avoids, fun _ _ _ => avoids_pure⟩
  | privacyInvoke operation dealId poolAddress noteId =>
    simp +decide only [execute, privacyInvoke, avoids_readStorage_bind, avoids_assert_bind,
      implies_true, true_and]
    intro _
    cases operation with
    | fund params => exact fund_avoids
    | fill params => exact fill_avoids h.booked
    | claim => exact claim_avoids h.booked
    | timeout => exact timeout_avoids h.booked
    | lock params => exact lock_avoids
    | take params => exact avoids_throw.mpr (by decide)
    | settleProceeds => exact settleProceeds_avoids h.booked
    | releaseCollateral => exact releaseCollateral_avoids h.booked
  | privacyInvokeWithComputation identityCommitment operation dealId poolAddress noteId =>
    simp +decide only [execute, privacyInvokeWithComputation, avoids_readStorage_bind,
      avoids_assert_bind, implies_true, true_and]
    intro _
    cases operation with
    | take params => exact take_avoids h
    | _ => exact avoids_throw.mpr (by decide)
  | ensureTicket dealId =>
    rw [execute, avoids_bind]
    exact ⟨ensureTicketInternal_avoids, fun _ _ _ => avoids_pure⟩
  | ensureLockTicket lockId =>
    rw [execute, avoids_bind]
    exact ⟨ensureLockTicketInternal_avoids, fun _ _ _ => avoids_pure⟩

end App20.Escrow
