import App20.Escrow.Spec

/-!
# What `take` and the dispatcher do

`take` runs over its fills twice: a checking loop that reads the locks, and an updating loop.
`Applied` describes the second loop as a chain of single updates, so that what one update keeps
or changes is carried over the loop by induction.

`Executes` lists everything a call to the escrow can do.
-/

namespace App20.Escrow

open App20.Lib App20.Lib.Exec App20.Starknet

variable {X : Type} {P : Platform X}

/-! ## The checking loop -/

/-- The amount of token B that a fill of these locks costs. -/
def fillB (locks : Felt → Lock) (fill : TakeFill) : Nat :=
  match evaluateLockSchedule (locks fill.lockId) fill.amountA with
  | .ok amountB => amountB.val
  | .error _ => 0

variable {locks locks' : Felt → Lock} {fill : TakeFill} {dealId noteId : Felt} {params : TakeParams}
  {t : State X} {fills : List TakeFill} {events : List Event} {out : List OpenNoteDeposit}

theorem fillB_of_ok {amountB : U128}
    (h : evaluateLockSchedule (locks fill.lockId) fill.amountA = .ok amountB) :
    fillB locks fill = amountB.val := by
  unfold fillB
  rw [h]

/-- What the checking loop asks of the lock of a fill. -/
structure Fillable (cx : CallContext) (dealId : Felt) (params : TakeParams) (l : Lock)
    (amountA : U128) : Prop where
  opened : l.status = .opened
  open_ : cx.blockTimestamp.val < l.expiry.val
  rfqId_eq : l.rfqId = dealId
  tokenA_eq : l.tokenA = params.token
  tokenB_eq : l.tokenB = params.counterToken
  evaluated : ∃ amountB, evaluateLockSchedule l amountA = .ok amountB ∧
    amountB.val ≤ l.remainingB.val

theorem returns_checkFill {cx : CallContext} {acc acc' : FillCheck} {s : State X}
    (h : Returns (checkFill cx dealId params acc fill) s acc' t) :
    t = s ∧ Fillable cx dealId params (s.storage.locks fill.lockId) fill.amountA ∧
      acc'.totalB.val = acc.totalB.val + fillB s.storage.locks fill := by
  simp only [checkFill, returns_readStorage_bind, returns_assert_bind, returns_lift_bind,
    returns_expect_bind, returns_pure, checkedAdd_eq_some, into_val] at h
  obtain ⟨h1, h2, h3, ⟨h4, h5⟩, -, amountB, heval, hle, totalB, htotal, rfl, rfl⟩ := h
  exact ⟨rfl, ⟨h1, h2, h3, h4, h5, amountB, heval, hle⟩, by rw [htotal, fillB_of_ok heval]⟩

theorem returns_checkFills {cx : CallContext} :
    ∀ {acc acc' : FillCheck} {s t : State X},
      Returns (fills.foldlM (checkFill cx dealId params) acc) s acc' t → t = s ∧ (∀ fill ∈ fills,
        Fillable cx dealId params (s.storage.locks fill.lockId) fill.amountA) ∧
      acc'.totalB.val = acc.totalB.val + (fills.map (fillB s.storage.locks)).sum := by
  induction fills with
  | nil =>
    intro acc acc' s t h
    obtain ⟨rfl, rfl⟩ := returns_foldlM_nil.mp h
    exact ⟨rfl, by simp, by simp⟩
  | cons fill fills ih =>
    intro acc acc' s t h
    obtain ⟨acc1, u, hfill, hfills⟩ := returns_foldlM_cons.mp h
    obtain ⟨rfl, hfillable, htotal⟩ := returns_checkFill hfill
    obtain ⟨rfl, hrest, htotal'⟩ := ih hfills
    refine ⟨rfl, List.forall_mem_cons.mpr ⟨hfillable, hrest⟩, ?_⟩
    rw [htotal', htotal, List.map_cons, List.sum_cons, Nat.add_assoc]

theorem returns_sumA :
    ∀ {sum sum' : U256} {s t : State X}, Returns (fills.foldlM (fun sum fill =>
        (expect (checkedAdd sum (into fill.amountA)) .overflow : EscrowM X U256)) sum) s sum' t →
      t = s ∧ sum'.val = sum.val + (fills.map fun fill => fill.amountA.val).sum := by
  induction fills with
  | nil =>
    intro sum sum' s t h
    obtain ⟨rfl, rfl⟩ := returns_foldlM_nil.mp h
    exact ⟨rfl, by simp⟩
  | cons fill fills ih =>
    intro sum sum' s t h
    obtain ⟨sum1, u, hfill, hfills⟩ := returns_foldlM_cons.mp h
    simp only [returns_expect, checkedAdd_eq_some, into_val] at hfill
    obtain ⟨hsum, rfl⟩ := hfill
    obtain ⟨rfl, hsum'⟩ := ih hfills
    refine ⟨rfl, ?_⟩
    rw [hsum', hsum, List.map_cons, List.sum_cons, Nat.add_assoc]

theorem returns_assertDistinctFills {s : State X} {u : Unit} :
    Returns (assertDistinctFills fills) s u t ↔
      fills.Pairwise (fun fill other => fill.lockId ≠ other.lockId) ∧ t = s := by
  induction fills with
  | nil => simp [assertDistinctFills, returns_pure]
  | cons fill fills ih =>
    rw [assertDistinctFills, returns_assert_bind, ih, List.pairwise_cons, and_assoc]

/-! ## The updating loop -/

/-- `l'` is the lock `l` after a fill of `amountA` for `amountB`. -/
structure Taken (l : Lock) (amountA amountB : U128) (l' : Lock) : Prop where
  evaluated : evaluateLockSchedule l amountA = .ok amountB
  remainingB_eq : l.remainingB.val = l'.remainingB.val + amountB.val
  earnedA_eq : l'.earnedA.val = l.earnedA.val + amountA.val
  rest : l' = { l with remainingB := l'.remainingB, earnedA := l'.earnedA }

theorem returns_applyFill {s : State X} {u : Unit} :
    Returns (applyFill dealId fill) s u t ↔
      ∃ amountB l', Taken (s.storage.locks fill.lockId) fill.amountA amountB l' ∧
        t = ⟨s.storage.setLock fill.lockId l', s.world,
          s.events ++ [.lockTaken fill.lockId dealId fill.amountA amountB l'.remainingB]⟩ := by
  simp only [applyFill, returns_readStorage_bind, returns_lift_bind, returns_expect_bind,
    returns_writeStorage_bind, returns_emit, checkedAdd_eq_some, checkedSub_eq_some,
    tryInto_eq_some, into_val]
  constructor
  · rintro ⟨amountB, heval, remainingB, hrem, earned, hearned, earnedA, hearnedA, rfl⟩
    exact ⟨amountB, _, ⟨heval, hrem, hearnedA.trans hearned, rfl⟩, rfl⟩
  · rintro ⟨amountB, l', ⟨heval, hrem, hearned, hrest⟩, rfl⟩
    refine ⟨amountB, heval, l'.remainingB, hrem,
      ⟨(s.storage.locks fill.lockId).earnedA.val + fill.amountA.val, by omega⟩, rfl,
      l'.earnedA, hearned, ?_⟩
    rw [← hrest]

inductive Applied (dealId : Felt) :
    List TakeFill → (Felt → Lock) → (Felt → Lock) → List Event → Prop where
  | nil {locks : Felt → Lock} : Applied dealId [] locks locks []
  | cons {fill : TakeFill} {fills : List TakeFill} {locks locks' : Felt → Lock} {l' : Lock}
      {amountB : U128} {events : List Event}
      (taken : Taken (locks fill.lockId) fill.amountA amountB l')
      (rest : Applied dealId fills (Function.update locks fill.lockId l') locks' events) :
      Applied dealId (fill :: fills) locks locks'
        (.lockTaken fill.lockId dealId fill.amountA amountB l'.remainingB :: events)

theorem returns_applyFills :
    ∀ {s t : State X} {u v : Unit},
      Returns (fills.foldlM (fun _ fill => (applyFill dealId fill : EscrowM X Unit)) u) s v t →
      ∃ locks' events, Applied dealId fills s.storage.locks locks' events ∧
        t = ⟨{ s.storage with locks := locks' }, s.world, s.events ++ events⟩ := by
  induction fills with
  | nil =>
    intro s t u v h
    obtain ⟨-, rfl⟩ := returns_foldlM_nil.mp h
    exact ⟨_, [], Applied.nil, by rw [List.append_nil]⟩
  | cons fill fills ih =>
    intro s t u v h
    obtain ⟨u1, s1, hfill, hfills⟩ := returns_foldlM_cons.mp h
    obtain ⟨amountB, l', htaken, rfl⟩ := returns_applyFill.mp hfill
    obtain ⟨locks', events, happlied, rfl⟩ := ih hfills
    exact ⟨locks', _, Applied.cons htaken happlied, by
      rw [List.append_assoc, List.singleton_append]; rfl⟩

theorem Applied.other (h : Applied dealId fills locks locks' events) {id : Felt}
    (hid : ∀ fill ∈ fills, fill.lockId ≠ id) : locks' id = locks id := by
  induction h with
  | nil => rfl
  | cons taken rest ih =>
    obtain ⟨hhead, htail⟩ := List.forall_mem_cons.mp hid
    rw [ih htail, Function.update_of_ne (Ne.symm hhead)]

/-- The updating loop changes nothing but what remains and what is earned. -/
theorem Applied.rest (h : Applied dealId fills locks locks' events) (id : Felt) :
    locks' id = { locks id with
      remainingB := (locks' id).remainingB, earnedA := (locks' id).earnedA } := by
  induction h with
  | nil => rfl
  | @cons fill fills locks locks' l' amountB events taken rest ih =>
    by_cases hid : id = fill.lockId
    · rw [hid] at ih ⊢
      rw [Function.update_self, taken.rest] at ih
      exact ih
    · rw [Function.update_of_ne hid] at ih
      exact ih

theorem Applied.taken (h : Applied dealId fills locks locks' events)
    (hdistinct : fills.Pairwise fun fill other => fill.lockId ≠ other.lockId) (hfill : fill ∈ fills) :
    ∃ amountB, Taken (locks fill.lockId) fill.amountA amountB (locks' fill.lockId) := by
  induction h with
  | nil => cases hfill
  | @cons head fills locks locks' l' amountB events taken rest ih =>
    obtain ⟨hhead, htail⟩ := List.pairwise_cons.mp hdistinct
    rcases List.mem_cons.mp hfill with rfl | hmem
    · have hlast := rest.other fun other hother => (hhead other hother).symm
      rw [Function.update_self] at hlast
      exact ⟨amountB, hlast ▸ taken⟩
    · obtain ⟨b, hb⟩ := ih htail hmem
      rw [Function.update_of_ne (hhead fill hmem).symm] at hb
      exact ⟨b, hb⟩

/-! ## The whole call -/

/-- A run of `take`: the payment is read (`w1`), the locks are updated, leg B is checked
(`w2`) and approved. -/
structure Takes (P : Platform X) (cx : CallContext) (dealId noteId : Felt) (params : TakeParams)
    (pool : ContractAddress) (s t : State X) (out : List OpenNoteDeposit)
    (locks' : Felt → Lock) (events : List Event) (record : TakeRecord) (nextA nextB : U256)
    (w1 w2 : X) : Prop where
  fresh : (s.storage.takes dealId).fillCount = 0
  distinct : params.fills.Pairwise fun fill other => fill.lockId ≠ other.lockId
  tokens_ne : params.token ≠ params.counterToken
  totalA_eq : record.totalA.val = (params.fills.map fun fill => fill.amountA.val).sum
  totalB_eq : record.totalB.val = (params.fills.map (fillB s.storage.locks)).sum
  fillCount_ne : record.fillCount ≠ 0
  consumed : Consumed P cx s.storage params.token (into record.totalA) s.world w1
  fillable : ∀ fill ∈ params.fills,
    Fillable cx dealId params (s.storage.locks fill.lockId) fill.amountA
  applied : Applied dealId params.fills s.storage.locks locks' events
  nextA_eq : nextA.val = (s.storage.accounted params.token).val + record.totalA.val
  paidB : Paid P (s.storage.accounted params.counterToken) params.counterToken record.totalB
    nextB w1 w2
  approved : P.approve params.counterToken pool (into record.totalB) w2 = some (true, t.world)
  storage_eq : t.storage =
    (((({ s.storage.consumeSnapshot params.token with locks := locks' } : Storage).setAccounted
      params.token nextA).setAccounted params.counterToken nextB).setTake dealId record)
  events_eq : t.events = s.events ++ events ++ [.dealTaken dealId params.token record.totalA
    params.counterToken record.totalB record.fillCount record.fillsDigest]
  out_eq : out = [⟨noteId, params.counterToken, record.totalB⟩]

theorem returns_take {cx : CallContext} {pool : ContractAddress} {identityCommitment : Felt}
    {s : State X} (h : Returns (take P cx dealId noteId params pool identityCommitment) s out t) :
    ∃ locks' events record nextA nextB w1 w2,
      Takes P cx dealId noteId params pool s t out locks' events record nextA nextB w1 w2 := by
  simp only [take, returns_assert_bind, returns_readStorage_bind] at h
  obtain ⟨-, -, h1, h2, h3, h⟩ := h
  obtain ⟨_, s1, hasserted, h⟩ := returns_bind.mp h
  obtain ⟨hdistinct, hs1⟩ := returns_assertDistinctFills.mp hasserted
  subst s1
  simp only [returns_assert_bind] at h
  obtain ⟨-, -, h4, h⟩ := h
  obtain ⟨expectedA, s1, hsumA, h⟩ := returns_bind.mp h
  obtain ⟨hs1, hexpectedA⟩ := returns_sumA hsumA
  subst s1
  simp only [returns_readStorage_bind, returns_consumeFunding_bind] at h
  obtain ⟨w1, hconsumed, h⟩ := h
  obtain ⟨checked, s1, hchecks, h⟩ := returns_bind.mp h
  obtain ⟨hs1, hfillable, htotalB⟩ := returns_checkFills hchecks
  subst s1
  simp only [returns_assert_bind] at h
  obtain ⟨-, h⟩ := h
  obtain ⟨_, s1, hupdates, h⟩ := returns_bind.mp h
  obtain ⟨locks', events, happlied, hs1⟩ := returns_applyFills hupdates
  subst s1
  simp only [returns_expect_bind, returns_external_bind, returns_readStorage_bind,
    returns_assert_bind, returns_writeStorage_bind, returns_approvePool_bind,
    returns_emit_bind, returns_pure, checkedAdd_eq_some, checkedSub_eq_some, tryInto_eq_some,
    Option.dite_none_right_eq_some, Option.some.injEq] at h
  obtain ⟨totalA, htotalA, totalB, htotalB', balanceB, w2, hbalanceB, hle, -, nextA, hnextA,
    nextB, hnextB, fillCount, ⟨hlen, hcount⟩, w3, happrove, rfl, rfl⟩ := h
  have hexpected : expectedA = into totalA := Fin.ext htotalA.symm
  subst hexpected
  refine ⟨locks', events, _, nextA, nextB, w1, w2, h1, hdistinct, h4, ?_, ?_, ?_, hconsumed,
    hfillable, happlied, hnextA, ⟨balanceB, hbalanceB, hle, ?_⟩, happrove, rfl, ?_, rfl⟩
  · simpa using hexpectedA
  · rw [htotalB', htotalB]
    exact Nat.zero_add _
  · intro h0
    rw [← hcount, Fin.ext_iff] at h0
    exact absurd h0 (Nat.pos_iff_ne_zero.mp h2)
  · rw [htotalB']
    exact hnextB
  · rfl

/-! ## The dispatcher -/

/-- Everything a call to the escrow can do, with what it returns. -/
inductive Executes (P : Platform X) (cx : CallContext) (s t : State X) :
    Call → List OpenNoteDeposit → Prop where
  | prepares {token : ContractAddress} {balance : U256} (token_ne : token ≠ 0)
      (read : P.balanceOf token P.contractAddress s.world = some (balance, t.world))
      (covered : (s.storage.accounted token).val ≤ balance.val)
      (storage_eq : t.storage = s.storage.setSnapshot token ⟨cx.transactionHash, balance, true⟩)
      (events_eq : t.events = s.events) : Executes P cx s t (.prepareFunding token) []
  | ensures {dealId : Felt} {ticket : ContractAddress}
      (ensured : TicketEnsured P s.storage dealId ticket s.world t.world)
      (storage_eq : t.storage = s.storage.setTicket dealId ticket)
      (events_eq : t.events = s.events) : Executes P cx s t (.ensureTicket dealId) []
  | ensuresLock {lockId : Felt} {ticket : ContractAddress}
      (ensured : LockTicketEnsured P s.storage lockId ticket s.world t.world)
      (storage_eq : t.storage = s.storage.setLockTicket lockId ticket)
      (events_eq : t.events = s.events) : Executes P cx s t (.ensureLockTicket lockId) []
  | funds {dealId noteId : Felt} {poolAddress ticket : ContractAddress} {params : FundParams}
      {next : U256} {w1 w2 w3 : X} {out : List OpenNoteDeposit} (caller : cx.caller = s.storage.pool)
      (run : Funds P cx dealId noteId params s.storage.pool s t out ticket next w1 w2 w3) :
      Executes P cx s t (.privacyInvoke (.fund params) dealId poolAddress noteId) out
  | fills {dealId noteId : Felt} {poolAddress : ContractAddress} {params : FillParams}
      {afterA afterB : U256} {w1 w2 : X} {out : List OpenNoteDeposit}
      (caller : cx.caller = s.storage.pool)
      (run : Fills P cx dealId noteId params s.storage.pool s t out afterA afterB w1 w2) :
      Executes P cx s t (.privacyInvoke (.fill params) dealId poolAddress noteId) out
  | claims {dealId noteId : Felt} {poolAddress : ContractAddress} {after : U256} {w1 w2 : X}
      {out : List OpenNoteDeposit} (caller : cx.caller = s.storage.pool)
      (run : Claims P dealId noteId s.storage.pool s t out after w1 w2) :
      Executes P cx s t (.privacyInvoke .claim dealId poolAddress noteId) out
  | timesOut {dealId noteId : Felt} {poolAddress : ContractAddress} {after : U256} {w1 w2 : X}
      {out : List OpenNoteDeposit} (caller : cx.caller = s.storage.pool)
      (run : TimesOut P cx dealId noteId s.storage.pool s t out after w1 w2) :
      Executes P cx s t (.privacyInvoke .timeout dealId poolAddress noteId) out
  | locks {lockId noteId : Felt} {poolAddress ticket : ContractAddress} {params : LockParams}
      {next : U256} {w1 w2 w3 : X} {out : List OpenNoteDeposit} (caller : cx.caller = s.storage.pool)
      (run : Locks P cx lockId noteId params s.storage.pool s t out ticket next w1 w2 w3) :
      Executes P cx s t (.privacyInvoke (.lock params) lockId poolAddress noteId) out
  | takes {dealId noteId identityCommitment : Felt} {poolAddress : ContractAddress}
      {params : TakeParams} {locks' : Felt → Lock} {events : List Event} {record : TakeRecord}
      {nextA nextB : U256} {w1 w2 : X} {out : List OpenNoteDeposit}
      (caller : cx.caller = s.storage.pool)
      (run : Takes P cx dealId noteId params s.storage.pool s t out locks' events record nextA
        nextB w1 w2) :
      Executes P cx s t (.privacyInvokeWithComputation identityCommitment (.take params) dealId
        poolAddress noteId) out
  | settles {lockId noteId : Felt} {poolAddress : ContractAddress} {after : U256} {w1 : X}
      {out : List OpenNoteDeposit} (caller : cx.caller = s.storage.pool)
      (run : Settles P cx lockId noteId s.storage.pool s t out after w1) :
      Executes P cx s t (.privacyInvoke .settleProceeds lockId poolAddress noteId) out
  | releases {lockId noteId : Felt} {poolAddress : ContractAddress} {after : U256} {w1 : X}
      {out : List OpenNoteDeposit} (caller : cx.caller = s.storage.pool)
      (run : Releases P cx lockId noteId s.storage.pool s t out after w1) :
      Executes P cx s t (.privacyInvoke .releaseCollateral lockId poolAddress noteId) out

theorem returns_privacyInvoke {cx : CallContext} {operation : EscrowOperation}
    {poolAddress : ContractAddress} {s : State X}
    (h : Returns (privacyInvoke P cx operation dealId poolAddress noteId) s out t) :
    Executes P cx s t (.privacyInvoke operation dealId poolAddress noteId) out := by
  simp only [privacyInvoke, returns_readStorage_bind, returns_assert_bind] at h
  obtain ⟨hcaller, h⟩ := h
  cases operation with
  | fund params =>
    obtain ⟨_, _, _, _, _, hrun⟩ := returns_fund h
    exact Executes.funds hcaller hrun
  | fill params =>
    obtain ⟨_, _, _, _, hrun⟩ := returns_fill h
    exact Executes.fills hcaller hrun
  | claim =>
    obtain ⟨_, _, _, hrun⟩ := returns_claim.mp h
    exact Executes.claims hcaller hrun
  | timeout =>
    obtain ⟨_, _, _, hrun⟩ := returns_timeout.mp h
    exact Executes.timesOut hcaller hrun
  | lock params =>
    obtain ⟨_, _, _, _, _, hrun⟩ := returns_lock h
    exact Executes.locks hcaller hrun
  | take params => exact absurd h not_returns_throw
  | settleProceeds =>
    obtain ⟨_, _, hrun⟩ := returns_settleProceeds.mp h
    exact Executes.settles hcaller hrun
  | releaseCollateral =>
    obtain ⟨_, _, hrun⟩ := returns_releaseCollateral.mp h
    exact Executes.releases hcaller hrun

theorem returns_privacyInvokeWithComputation {cx : CallContext} {identityCommitment : Felt}
    {operation : EscrowOperation} {poolAddress : ContractAddress} {s : State X}
    (h : Returns (privacyInvokeWithComputation P cx identityCommitment operation dealId
      poolAddress noteId) s out t) :
    Executes P cx s t (.privacyInvokeWithComputation identityCommitment operation dealId
      poolAddress noteId) out := by
  simp only [privacyInvokeWithComputation, returns_readStorage_bind, returns_assert_bind] at h
  obtain ⟨hcaller, h⟩ := h
  cases operation with
  | take params =>
    obtain ⟨_, _, _, _, _, _, _, hrun⟩ := returns_take h
    exact Executes.takes hcaller hrun
  | _ => exact absurd h not_returns_throw

/-- A call that returns has done one of the listed things. -/
theorem returns_execute {cx : CallContext} {c : Call} {s : State X}
    (h : Returns (execute P cx c) s out t) : Executes P cx s t c out := by
  cases c with
  | prepareFunding token =>
    simp only [execute, returns_bind, returns_prepareFunding, returns_pure] at h
    obtain ⟨_, _, ⟨htoken, balance, w, hread, hle, rfl⟩, rfl, rfl⟩ := h
    exact Executes.prepares htoken hread hle rfl rfl
  | privacyInvoke operation dealId poolAddress noteId => exact returns_privacyInvoke h
  | privacyInvokeWithComputation identityCommitment operation dealId poolAddress noteId =>
    exact returns_privacyInvokeWithComputation h
  | ensureTicket dealId =>
    simp only [execute, returns_ensureTicketInternal_bind, returns_pure] at h
    obtain ⟨ticket, w, hensured, rfl, rfl⟩ := h
    exact Executes.ensures hensured rfl rfl
  | ensureLockTicket lockId =>
    simp only [execute, returns_ensureLockTicketInternal_bind, returns_pure] at h
    obtain ⟨ticket, w, hensured, rfl, rfl⟩ := h
    exact Executes.ensuresLock hensured rfl rfl

/-! ## What a call keeps of the other contracts -/

/-- A property of the state of the other contracts that every single call into them keeps. -/
structure Keeps (P : Platform X) (J : X → Prop) : Prop where
  balanceOf : ∀ {token account v w w'}, P.balanceOf token account w = some (v, w') → J w → J w'
  approve : ∀ {token spender amount b w w'},
    P.approve token spender amount w = some (b, w') → J w → J w'
  mint : ∀ {token w w'}, P.mint token w = some w' → J w → J w'
  burn : ∀ {token w w'}, P.burn token w = some w' → J w → J w'
  deploy : ∀ {classHash salt calldata address w w'},
    P.deploy classHash salt calldata w = some (address, w') → J w → J w'

section Keeps

variable {J : X → Prop} {cx : CallContext} {s : Storage} {token pool : ContractAddress}
  {accounted after expected : U256} {amount : U128} {id : Felt} {w w' : X}

theorem Paid.keeps (h : Paid P accounted token amount after w w') (hJ : Keeps P J) (hw : J w) :
    J w' := by
  obtain ⟨_, hread, _⟩ := h
  exact hJ.balanceOf hread hw

theorem Consumed.keeps (h : Consumed P cx s token expected w w') (hJ : Keeps P J) (hw : J w) :
    J w' := by
  obtain ⟨_, hread, _⟩ := h.received
  exact hJ.balanceOf hread hw

theorem Burned.keeps (h : Burned P accounted token w w') (hJ : Keeps P J) (hw : J w) : J w' := by
  obtain ⟨_, _, _, hbefore, -, hburn, hafter⟩ := h
  exact hJ.balanceOf hafter (hJ.burn hburn (hJ.balanceOf hbefore hw))

theorem PaidPositive.keeps (h : PaidPositive P accounted token pool amount after w w')
    (hJ : Keeps P J) (hw : J w) : J w' := by
  rcases h with ⟨-, _, hpaid, happroved⟩ | ⟨-, -, rfl⟩
  · exact hJ.approve happroved (hpaid.keeps hJ hw)
  · exact hw

theorem TicketEnsured.keeps (h : TicketEnsured P s id token w w') (hJ : Keeps P J) (hw : J w) :
    J w' := by
  obtain ⟨-, ⟨-, -, rfl⟩ | ⟨-, hdeploy⟩⟩ := h
  · exact hw
  · exact hJ.deploy hdeploy hw

theorem LockTicketEnsured.keeps (h : LockTicketEnsured P s id token w w') (hJ : Keeps P J)
    (hw : J w) : J w' := by
  obtain ⟨-, ⟨-, -, rfl⟩ | ⟨-, hdeploy⟩⟩ := h
  · exact hw
  · exact hJ.deploy hdeploy hw

end Keeps

/-- What every single call into the other contracts keeps, a call to the escrow keeps. -/
theorem Executes.keeps {J : X → Prop} {cx : CallContext} {c : Call} {s : State X}
    (h : Executes P cx s t c out) (hJ : Keeps P J) (hw : J s.world) : J t.world := by
  cases h with
  | prepares _ hread => exact hJ.balanceOf hread hw
  | ensures hensured | ensuresLock hensured => exact hensured.keeps hJ hw
  | funds _ run | locks _ run =>
    exact hJ.approve run.approved (hJ.mint run.minted
      (run.consumed.keeps hJ (run.ensured.keeps hJ hw)))
  | fills _ run =>
    exact hJ.approve run.approved (run.consumed.keeps hJ (run.paidA.keeps hJ hw))
  | claims _ run | timesOut _ run =>
    exact hJ.approve run.approved (run.paid.keeps hJ (run.burned.keeps hJ hw))
  | takes _ run =>
    exact hJ.approve run.approved (run.paidB.keeps hJ (run.consumed.keeps hJ hw))
  | settles _ run | releases _ run => exact run.paid.keeps hJ (run.burned.keeps hJ hw)

end App20.Escrow
