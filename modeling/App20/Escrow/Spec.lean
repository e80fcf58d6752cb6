import App20.Escrow.Contract

/-!
# What the entry points of the escrow do

One lemma for each function of the contract: a call that returns has passed its checks, has
made the listed calls into other contracts, and leaves the listed storage. Nothing after this
module unfolds a function of the contract.
-/

namespace App20.Escrow

open App20.Lib App20.Lib.Exec App20.Starknet

variable {X : Type}

variable {P : Platform X}

/-! ## Helpers -/

variable {token pool ticket : ContractAddress} {s t : State X} {u : Unit} {β : Type} {amount : U128}
  {cx : CallContext} {dealId lockId noteId : Felt} {out : List OpenNoteDeposit}

theorem returns_approvePool {amount : U256} :
    Returns (approvePool P token pool amount) s u t ↔
      ∃ w, P.approve token pool amount s.world = some (true, w) ∧ t = { s with world := w } := by
  simp only [approvePool, returns_external_bind, returns_assert]
  constructor
  · rintro ⟨a, w, h, rfl, rfl⟩
    exact ⟨w, h, rfl⟩
  · rintro ⟨w, h, rfl⟩
    exact ⟨true, w, h, rfl, rfl⟩

theorem returns_approvePool_bind {amount : U256} {b : β} {k : Unit → EscrowM X β} :
    Returns (approvePool P token pool amount >>= k) s b t ↔
      ∃ w, P.approve token pool amount s.world = some (true, w) ∧
        Returns (k ()) { s with world := w } b t := by
  rw [returns_bind_iff fun _ _ => returns_approvePool, exists_unit]

/-- The balance read and the two checks of a payment: `after` is what stays accounted. -/
def Paid (P : Platform X) (accounted : U256) (token : ContractAddress) (amount : U128)
    (after : U256) (w w' : X) : Prop :=
  ∃ balance, P.balanceOf token P.contractAddress w = some (balance, w') ∧
    accounted.val ≤ balance.val ∧ accounted.val = after.val + amount.val

theorem returns_payOut :
    Returns (payOut P token amount) s u t ↔
      ∃ after w, Paid P (s.storage.accounted token) token amount after s.world w ∧
        t = { s with storage := s.storage.setAccounted token after, world := w } := by
  simp only [payOut, returns_external_bind, returns_readStorage_bind, returns_assert_bind,
    returns_expect_bind, returns_writeStorage, checkedSub_eq_some, into_val, Paid]
  constructor
  · rintro ⟨balance, w, hb, hle, -, after, hafter, rfl⟩
    exact ⟨after, w, ⟨balance, hb, hle, hafter⟩, rfl⟩
  · rintro ⟨after, w, ⟨balance, hb, hle, hafter⟩, rfl⟩
    exact ⟨balance, w, hb, hle, by omega, after, hafter, rfl⟩

theorem returns_payOut_bind {b : β} {k : Unit → EscrowM X β} :
    Returns (payOut P token amount >>= k) s b t ↔
      ∃ after w, Paid P (s.storage.accounted token) token amount after s.world w ∧
        Returns (k ()) { s with storage := s.storage.setAccounted token after, world := w } b t := by
  simp only [returns_bind, returns_payOut, exists_unit]
  constructor
  · rintro ⟨u, ⟨after, w, h, rfl⟩, hk⟩
    exact ⟨after, w, h, hk⟩
  · rintro ⟨after, w, h, hk⟩
    exact ⟨_, ⟨after, w, h, rfl⟩, hk⟩

/-- The escrow holds one unit of the ticket beyond the accounted ones, and burns it. -/
def Burned (P : Platform X) (accounted : U256) (ticket : ContractAddress) (w w' : X) : Prop :=
  ∃ balance w1 w2, P.balanceOf ticket P.contractAddress w = some (balance, w1) ∧
    balance.val = accounted.val + 1 ∧ P.burn ticket w1 = some w2 ∧
    P.balanceOf ticket P.contractAddress w2 = some (accounted, w')

theorem returns_consumeTicket :
    Returns (consumeTicket P ticket) s u t ↔
      ∃ w, Burned P (s.storage.accounted ticket) ticket s.world w ∧ t = { s with world := w } := by
  simp only [consumeTicket, returns_external_bind, returns_readStorage_bind,
    returns_assert_bind, returns_expect_bind, returns_assert, checkedSub_eq_some, Burned,
    Option.map_eq_some_iff, Prod.mk.injEq]
  constructor
  · rintro ⟨balance, w1, hb, -, surplus, hs, rfl, -, w2, ⟨w2', hburn, -, rfl⟩, b', w, hb', rfl, rfl⟩
    exact ⟨w, ⟨balance, w1, w2', hb, by rw [hs, Nat.add_comm]; rfl, hburn, hb'⟩, rfl⟩
  · rintro ⟨w, ⟨balance, w1, w2, hb, hval, hburn, hb'⟩, rfl⟩
    exact ⟨balance, w1, hb, by omega, 1, by rw [hval, Nat.add_comm]; rfl, rfl, (), w2,
      ⟨w2, hburn, trivial, rfl⟩, _, w, hb', rfl, rfl⟩

theorem returns_consumeTicket_bind {b : β} {k : Unit → EscrowM X β} :
    Returns (consumeTicket P ticket >>= k) s b t ↔
      ∃ w, Burned P (s.storage.accounted ticket) ticket s.world w ∧
        Returns (k ()) { s with world := w } b t := by
  rw [returns_bind_iff fun _ _ => returns_consumeTicket, exists_unit]

/-- A prepared snapshot of this transaction is consumed: the balance has grown by `expected`. -/
structure Consumed (P : Platform X) (cx : CallContext) (s : Storage) (token : ContractAddress)
    (expected : U256) (w w' : X) : Prop where
  prepared : (s.fundingSnapshots token).prepared = true
  fresh : (s.fundingSnapshots token).transactionHash = cx.transactionHash
  received : ∃ balance, P.balanceOf token P.contractAddress w = some (balance, w') ∧
    (s.accounted token).val ≤ balance.val ∧
    balance.val = (s.fundingSnapshots token).balance.val + expected.val

/-- The snapshots after `token`'s has been consumed. -/
def Storage.consumeSnapshot (s : Storage) (token : ContractAddress) : Storage :=
  s.setSnapshot token { s.fundingSnapshots token with prepared := false }

theorem returns_consumeFunding {expected : U256} :
    Returns (consumeFunding P cx token expected) s u t ↔
      ∃ w, Consumed P cx s.storage token expected s.world w ∧
        t = { s with storage := s.storage.consumeSnapshot token, world := w } := by
  simp only [consumeFunding, returns_external_bind, returns_readStorage_bind,
    returns_assert_bind, returns_expect_bind, returns_assert, returns_writeStorage_bind,
    checkedSub_eq_some, Storage.consumeSnapshot]
  constructor
  · rintro ⟨hp, hh, balance, w, hb, -, hacc, received, hr, -, rfl, rfl⟩
    exact ⟨w, ⟨hp, hh, balance, hb, hacc, by omega⟩, rfl⟩
  · rintro ⟨w, ⟨hp, hh, balance, hb, hacc, hr⟩, rfl⟩
    exact ⟨hp, hh, balance, w, hb, by omega, hacc, expected, by omega, le_refl _, rfl, rfl⟩

theorem returns_consumeFunding_bind {expected : U256} {b : β} {k : Unit → EscrowM X β} :
    Returns (consumeFunding P cx token expected >>= k) s b t ↔
      ∃ w, Consumed P cx s.storage token expected s.world w ∧
        Returns (k ()) { s with storage := s.storage.consumeSnapshot token, world := w } b t := by
  rw [returns_bind_iff fun _ _ => returns_consumeFunding, exists_unit]

def TicketEnsured (P : Platform X) (s : Storage) (dealId : Felt) (ticket : ContractAddress)
    (w w' : X) : Prop :=
  dealId ≠ 0 ∧ ((s.tickets dealId ≠ 0 ∧ ticket = s.tickets dealId ∧ w' = w) ∨
      (s.tickets dealId = 0 ∧ P.deploy s.ticketClassHash dealId
        [into P.contractAddress, into s.pool, dealId] w = some (ticket, w')))

def LockTicketEnsured (P : Platform X) (s : Storage) (lockId : Felt) (ticket : ContractAddress)
    (w w' : X) : Prop :=
  lockId ≠ 0 ∧ ((s.lockTickets lockId ≠ 0 ∧ ticket = s.lockTickets lockId ∧ w' = w) ∨
      (s.lockTickets lockId = 0 ∧ P.deploy s.lockTicketClassHash lockId
        [into P.contractAddress, into s.pool, lockId] w = some (ticket, w')))

theorem returns_ensureTicketInternal :
    Returns (ensureTicketInternal P dealId) s ticket t ↔
      ∃ w, TicketEnsured P s.storage dealId ticket s.world w ∧
        t = { s with storage := s.storage.setTicket dealId ticket, world := w } := by
  simp only [ensureTicketInternal, returns_assert_bind, returns_readStorage_bind, returns_ite,
    returns_pure, returns_external_bind, returns_writeStorage_bind, TicketEnsured, ne_eq, not_not]
  constructor
  · rintro ⟨h0, ⟨hex, rfl, rfl⟩ | ⟨hnew, a, w, hd, rfl, rfl⟩⟩
    · refine ⟨_, ⟨h0, Or.inl ⟨hex, rfl, rfl⟩⟩, ?_⟩
      rw [Storage.setTicket, Function.update_eq_self]
    · exact ⟨w, ⟨h0, Or.inr ⟨hnew, hd⟩⟩, rfl⟩
  · rintro ⟨w, ⟨h0, ⟨hex, rfl, rfl⟩ | ⟨hnew, hd⟩⟩, rfl⟩
    · refine ⟨h0, Or.inl ⟨hex, rfl, ?_⟩⟩
      rw [Storage.setTicket, Function.update_eq_self]
    · exact ⟨h0, Or.inr ⟨hnew, ticket, w, hd, rfl, rfl⟩⟩

theorem returns_ensureTicketInternal_bind {b : β} {k : ContractAddress → EscrowM X β} :
    Returns (ensureTicketInternal P dealId >>= k) s b t ↔
      ∃ ticket w, TicketEnsured P s.storage dealId ticket s.world w ∧ Returns (k ticket)
          { s with storage := s.storage.setTicket dealId ticket, world := w } b t :=
  returns_bind_iff fun _ _ => returns_ensureTicketInternal

theorem returns_ensureLockTicketInternal :
    Returns (ensureLockTicketInternal P lockId) s ticket t ↔
      ∃ w, LockTicketEnsured P s.storage lockId ticket s.world w ∧
        t = { s with storage := s.storage.setLockTicket lockId ticket, world := w } := by
  simp only [ensureLockTicketInternal, returns_assert_bind, returns_readStorage_bind,
    returns_ite, returns_pure, returns_external_bind, returns_writeStorage_bind,
    LockTicketEnsured, ne_eq, not_not]
  constructor
  · rintro ⟨h0, ⟨hex, rfl, rfl⟩ | ⟨hnew, a, w, hd, rfl, rfl⟩⟩
    · refine ⟨_, ⟨h0, Or.inl ⟨hex, rfl, rfl⟩⟩, ?_⟩
      rw [Storage.setLockTicket, Function.update_eq_self]
    · exact ⟨w, ⟨h0, Or.inr ⟨hnew, hd⟩⟩, rfl⟩
  · rintro ⟨w, ⟨h0, ⟨hex, rfl, rfl⟩ | ⟨hnew, hd⟩⟩, rfl⟩
    · refine ⟨h0, Or.inl ⟨hex, rfl, ?_⟩⟩
      rw [Storage.setLockTicket, Function.update_eq_self]
    · exact ⟨h0, Or.inr ⟨hnew, ticket, w, hd, rfl, rfl⟩⟩

theorem returns_ensureLockTicketInternal_bind {b : β} {k : ContractAddress → EscrowM X β} :
    Returns (ensureLockTicketInternal P lockId >>= k) s b t ↔
      ∃ ticket w, LockTicketEnsured P s.storage lockId ticket s.world w ∧ Returns (k ticket)
          { s with storage := s.storage.setLockTicket lockId ticket, world := w } b t :=
  returns_bind_iff fun _ _ => returns_ensureLockTicketInternal

theorem returns_prepareFunding :
    Returns (prepareFunding P cx token) s u t ↔
      token ≠ 0 ∧ ∃ balance w, P.balanceOf token P.contractAddress s.world = some (balance, w) ∧
        (s.storage.accounted token).val ≤ balance.val ∧ t = { s with
          storage := s.storage.setSnapshot token ⟨cx.transactionHash, balance, true⟩,
          world := w } := by
  simp only [prepareFunding, returns_assert_bind, returns_external_bind,
    returns_readStorage_bind, returns_writeStorage]

/-! ## Deals -/

/-- A run of `fund`: the ticket is ensured (`w1`), the funding read (`w2`), the ticket minted
(`w3`) and approved. -/
structure Funds (P : Platform X) (cx : CallContext) (dealId noteId : Felt) (params : FundParams)
    (pool : ContractAddress) (s t : State X) (out : List OpenNoteDeposit)
    (ticket : ContractAddress) (next : U256) (w1 w2 w3 : X) : Prop where
  token_ne : params.token ≠ 0
  counterToken_ne : params.counterToken ≠ 0
  tokens_ne : params.token ≠ params.counterToken
  counterAmount_ne : params.counterAmount ≠ 0
  amount_ne : params.amount ≠ 0
  deadline_future : cx.blockTimestamp.val < params.deadline.val
  empty : (s.storage.deals dealId).status = .empty
  ensured : TicketEnsured P s.storage dealId ticket s.world w1
  consumed : Consumed P cx s.storage params.token (into params.amount) w1 w2
  next_eq : next.val = (s.storage.accounted params.token).val + params.amount.val
  minted : P.mint ticket w2 = some w3
  approved : P.approve ticket pool 1 w3 = some (true, t.world)
  storage_eq : t.storage =
    (((s.storage.setTicket dealId ticket).consumeSnapshot params.token).setAccounted
      params.token next).setDeal dealId
        ⟨params.token, params.amount, params.counterToken, params.counterAmount, 0,
          params.deadline, ticket, .funded⟩
  events_eq : t.events = s.events ++ [.dealFunded dealId params.token params.amount
    params.counterToken params.counterAmount params.deadline ticket]
  out_eq : out = [⟨noteId, ticket, 1⟩]

theorem returns_fund {params : FundParams}
    (h : Returns (fund P cx dealId noteId params pool) s out t) :
    ∃ ticket next w1 w2 w3, Funds P cx dealId noteId params pool s t out ticket next w1 w2 w3 := by
  simp only [fund, returns_assert_bind, returns_readStorage_bind,
    returns_ensureTicketInternal_bind, returns_consumeFunding_bind, returns_expect_bind,
    returns_writeStorage_bind, returns_external_bind, returns_approvePool_bind,
    returns_emit_bind, returns_pure, checkedAdd_eq_some, into_val, Option.map_eq_some_iff,
    Prod.mk.injEq] at h
  obtain ⟨-, h1, h2, h3, h4, h5, h6, h7, ticket, w1, hticket, w2, hconsumed, next, hnext, _, w3,
    ⟨_, hmint, -, rfl⟩, w4, happrove, rfl, rfl⟩ := h
  exact ⟨ticket, next, w1, w2, _, h1, h2, h3, h4, h5, h6, h7, hticket,
    ⟨hconsumed.prepared, hconsumed.fresh, hconsumed.received⟩, hnext, hmint, happrove, rfl, rfl,
    rfl⟩

/-- A run of `fill`: leg A is checked (`w1`) and the payment of leg B read (`w2`). -/
structure Fills (P : Platform X) (cx : CallContext) (dealId noteId : Felt) (params : FillParams)
    (pool : ContractAddress) (s t : State X) (out : List OpenNoteDeposit) (afterA afterB : U256)
    (w1 w2 : X) : Prop where
  funded : (s.storage.deals dealId).status = .funded
  open_ : cx.blockTimestamp.val < (s.storage.deals dealId).deadline.val
  token_eq : params.token = (s.storage.deals dealId).legBToken
  paidA : Paid P (s.storage.accounted (s.storage.deals dealId).legAToken)
    (s.storage.deals dealId).legAToken (s.storage.deals dealId).legAAmount afterA s.world w1
  consumed : Consumed P cx s.storage (s.storage.deals dealId).legBToken
    (into (s.storage.deals dealId).legBTerms) w1 w2
  afterB_eq : afterB.val = (s.storage.accounted (s.storage.deals dealId).legBToken).val +
    (s.storage.deals dealId).legBTerms.val
  approved : P.approve (s.storage.deals dealId).legAToken pool
    (into (s.storage.deals dealId).legAAmount) w2 = some (true, t.world)
  storage_eq : t.storage =
    (((s.storage.consumeSnapshot (s.storage.deals dealId).legBToken).setAccounted
      (s.storage.deals dealId).legAToken afterA).setAccounted
        (s.storage.deals dealId).legBToken afterB).setDeal dealId
          { s.storage.deals dealId with
            legBAmount := (s.storage.deals dealId).legBTerms, status := .filled }
  events_eq : t.events = s.events ++ [.dealFilled dealId (s.storage.deals dealId).legAToken
    (s.storage.deals dealId).legAAmount (s.storage.deals dealId).legBToken
    (s.storage.deals dealId).legBTerms]
  out_eq : out = [⟨noteId, (s.storage.deals dealId).legAToken, (s.storage.deals dealId).legAAmount⟩]

theorem returns_fill {params : FillParams}
    (h : Returns (fill P cx dealId noteId params pool) s out t) :
    ∃ afterA afterB w1 w2, Fills P cx dealId noteId params pool s t out afterA afterB w1 w2 := by
  simp only [fill, returns_assert_bind, returns_readStorage_bind, returns_consumeFunding_bind,
    returns_expect_bind, returns_writeStorage_bind, returns_external_bind,
    returns_approvePool_bind, returns_emit_bind, returns_pure, checkedAdd_eq_some,
    checkedSub_eq_some, into_val] at h
  obtain ⟨h1, h2, h3, balance, w1, hbalance, hle, -, afterA, hafterA, w2, hconsumed, afterB,
    hafterB, w3, happrove, rfl, rfl⟩ := h
  exact ⟨afterA, afterB, w1, w2, h1, h2, h3, ⟨balance, hbalance, hle, hafterA⟩, hconsumed,
    hafterB, happrove, rfl, rfl, rfl⟩

/-- A run of `claim`: the ticket is burned (`w1`) and leg B paid out (`w2`). -/
structure Claims (P : Platform X) (dealId noteId : Felt) (pool : ContractAddress) (s t : State X)
    (out : List OpenNoteDeposit) (after : U256) (w1 w2 : X) : Prop where
  filled : (s.storage.deals dealId).status = .filled
  burned : Burned P (s.storage.accounted (s.storage.deals dealId).ticket)
    (s.storage.deals dealId).ticket s.world w1
  paid : Paid P (s.storage.accounted (s.storage.deals dealId).legBToken)
    (s.storage.deals dealId).legBToken (s.storage.deals dealId).legBAmount after w1 w2
  approved : P.approve (s.storage.deals dealId).legBToken pool
    (into (s.storage.deals dealId).legBAmount) w2 = some (true, t.world)
  storage_eq : t.storage =
    (s.storage.setAccounted (s.storage.deals dealId).legBToken after).setDeal dealId
      { s.storage.deals dealId with status := .settled }
  events_eq : t.events = s.events ++ [.dealClaimed dealId (s.storage.deals dealId).legBToken
    (s.storage.deals dealId).legBAmount]
  out_eq : out = [⟨noteId, (s.storage.deals dealId).legBToken, (s.storage.deals dealId).legBAmount⟩]

theorem returns_claim :
    Returns (claim P dealId noteId pool) s out t ↔
      ∃ after w1 w2, Claims P dealId noteId pool s t out after w1 w2 := by
  simp only [claim, returns_assert_bind, returns_readStorage_bind, returns_consumeTicket_bind,
    returns_payOut_bind, returns_writeStorage_bind, returns_approvePool_bind,
    returns_emit_bind, returns_pure]
  constructor
  · rintro ⟨h1, w1, hburn, after, w2, hpaid, w3, happrove, rfl, rfl⟩
    exact ⟨after, w1, w2, h1, hburn, hpaid, happrove, rfl, rfl, rfl⟩
  · rintro ⟨after, w1, w2, h⟩
    refine ⟨h.filled, w1, h.burned, after, w2, h.paid, t.world, h.approved, h.out_eq, ?_⟩
    rw [← h.storage_eq, ← h.events_eq]

/-- A run of `timeout`: the ticket is burned (`w1`) and leg A paid back (`w2`). -/
structure TimesOut (P : Platform X) (cx : CallContext) (dealId noteId : Felt)
    (pool : ContractAddress) (s t : State X) (out : List OpenNoteDeposit) (after : U256)
    (w1 w2 : X) : Prop where
  funded : (s.storage.deals dealId).status = .funded
  expired : (s.storage.deals dealId).deadline.val ≤ cx.blockTimestamp.val
  burned : Burned P (s.storage.accounted (s.storage.deals dealId).ticket)
    (s.storage.deals dealId).ticket s.world w1
  paid : Paid P (s.storage.accounted (s.storage.deals dealId).legAToken)
    (s.storage.deals dealId).legAToken (s.storage.deals dealId).legAAmount after w1 w2
  approved : P.approve (s.storage.deals dealId).legAToken pool
    (into (s.storage.deals dealId).legAAmount) w2 = some (true, t.world)
  storage_eq : t.storage =
    (s.storage.setAccounted (s.storage.deals dealId).legAToken after).setDeal dealId
      { s.storage.deals dealId with status := .timedOut }
  events_eq : t.events = s.events ++ [.dealTimedOut dealId (s.storage.deals dealId).legAToken
    (s.storage.deals dealId).legAAmount]
  out_eq : out = [⟨noteId, (s.storage.deals dealId).legAToken, (s.storage.deals dealId).legAAmount⟩]

theorem returns_timeout :
    Returns (timeout P cx dealId noteId pool) s out t ↔
      ∃ after w1 w2, TimesOut P cx dealId noteId pool s t out after w1 w2 := by
  simp only [timeout, returns_assert_bind, returns_readStorage_bind, returns_consumeTicket_bind,
    returns_payOut_bind, returns_writeStorage_bind, returns_approvePool_bind,
    returns_emit_bind, returns_pure]
  constructor
  · rintro ⟨h1, h2, w1, hburn, after, w2, hpaid, w3, happrove, rfl, rfl⟩
    exact ⟨after, w1, w2, h1, h2, hburn, hpaid, happrove, rfl, rfl, rfl⟩
  · rintro ⟨after, w1, w2, h⟩
    refine ⟨h.funded, h.expired, w1, h.burned, after, w2, h.paid, t.world, h.approved, h.out_eq, ?_⟩
    rw [← h.storage_eq, ← h.events_eq]

/-! ## Locks -/

/-- A run of `lock`: the ticket is ensured (`w1`), the collateral read (`w2`), the ticket
minted (`w3`) and approved. -/
structure Locks (P : Platform X) (cx : CallContext) (lockId noteId : Felt) (params : LockParams)
    (pool : ContractAddress) (s t : State X) (out : List OpenNoteDeposit)
    (ticket : ContractAddress) (next : U256) (w1 w2 w3 : X) : Prop where
  empty : (s.storage.locks lockId).status = .empty
  token_ne : params.token ≠ 0
  counterToken_ne : params.counterToken ≠ 0
  tokens_ne : params.token ≠ params.counterToken
  expiry_future : cx.blockTimestamp.val < params.expiry.val
  valid : params.schedule.Valid
  ensured : LockTicketEnsured P s.storage lockId ticket s.world w1
  consumed : Consumed P cx s.storage params.token (into (scheduleMaxB params.schedule)) w1 w2
  next_eq : next.val = (s.storage.accounted params.token).val + (scheduleMaxB params.schedule).val
  minted : P.mint ticket w2 = some w3
  approved : P.approve ticket pool 2 w3 = some (true, t.world)
  storage_eq : t.storage =
    (((s.storage.setLockTicket lockId ticket).consumeSnapshot params.token).setAccounted
      params.token next).setLock lockId
        ⟨params.counterToken, params.token, params.rfqId, params.takerCommitment, params.expiry,
          params.schedule, scheduleMaxB params.schedule, 0, ticket, false, false, .opened⟩
  events_eq : t.events = s.events ++ [.lockCreated lockId params.rfqId params.counterToken
    params.token params.expiry (scheduleMaxB params.schedule) params.schedule ticket]
  out_eq : out = [⟨noteId, ticket, 2⟩]

theorem returns_lock {params : LockParams}
    (h : Returns (lock P cx lockId noteId params pool) s out t) :
    ∃ ticket next w1 w2 w3, Locks P cx lockId noteId params pool s t out ticket next w1 w2 w3 := by
  simp only [lock, returns_assert_bind, returns_readStorage_bind, returns_lift_bind,
    returns_ensureLockTicketInternal_bind, returns_consumeFunding_bind, returns_expect_bind,
    returns_writeStorage_bind, returns_external_bind, returns_approvePool_bind,
    returns_emit_bind, returns_pure, checkedAdd_eq_some, into_val, Option.map_eq_some_iff,
    Prod.mk.injEq] at h
  obtain ⟨-, h1, h2, h3, h4, h5, minimum, hminimum, ticket, w1, hticket, w2, hconsumed, next,
    hnext, _, w3, ⟨_, hmint, -, rfl⟩, w4, happrove, rfl, rfl⟩ := h
  exact ⟨ticket, next, w1, w2, _, h1, h2, h3, h4, h5, (evaluateSchedule_ok_iff.mp hminimum).1,
    hticket, ⟨hconsumed.prepared, hconsumed.fresh, hconsumed.received⟩, hnext, hmint, happrove,
    rfl, rfl, rfl⟩

/-- The guarded payment: nothing happens when the amount is zero. -/
def PaidPositive (P : Platform X) (accounted : U256) (token pool : ContractAddress)
    (amount : U128) (after : U256) (w w' : X) : Prop :=
  (0 < amount.val ∧ ∃ w1, Paid P accounted token amount after w w1 ∧
      P.approve token pool (into amount) w1 = some (true, w')) ∨
    (amount.val = 0 ∧ after = accounted ∧ w' = w)

theorem returns_payOutPositive :
    Returns (payOutPositive P token pool amount) s u t ↔
      ∃ after w, PaidPositive P (s.storage.accounted token) token pool amount after s.world w ∧
        t = { s with storage := s.storage.setAccounted token after, world := w } := by
  simp only [payOutPositive, returns_ite, returns_payOut_bind, returns_approvePool,
    returns_pure, PaidPositive]
  constructor
  · rintro (⟨hpos, after, w1, hpaid, w, happrove, rfl⟩ | ⟨hzero, -, rfl⟩)
    · exact ⟨after, w, Or.inl ⟨hpos, w1, hpaid, happrove⟩, rfl⟩
    · refine ⟨_, t.world, Or.inr ⟨by omega, rfl, rfl⟩, ?_⟩
      rw [Storage.setAccounted, Function.update_eq_self]
  · rintro ⟨after, w, ⟨hpos, w1, hpaid, happrove⟩ | ⟨hzero, rfl, rfl⟩, rfl⟩
    · exact Or.inl ⟨hpos, after, w1, hpaid, w, happrove, rfl⟩
    · refine Or.inr ⟨by omega, trivial, ?_⟩
      rw [Storage.setAccounted, Function.update_eq_self]

theorem returns_payOutPositive_bind {b : β} {k : Unit → EscrowM X β} :
    Returns (payOutPositive P token pool amount >>= k) s b t ↔
      ∃ after w, PaidPositive P (s.storage.accounted token) token pool amount after s.world w ∧
        Returns (k ()) { s with storage := s.storage.setAccounted token after, world := w } b t := by
  simp only [returns_bind, returns_payOutPositive, exists_unit]
  constructor
  · rintro ⟨u, ⟨after, w, h, rfl⟩, hk⟩
    exact ⟨after, w, h, hk⟩
  · rintro ⟨after, w, h, hk⟩
    exact ⟨_, ⟨after, w, h, rfl⟩, hk⟩

/-- A run of `settle_proceeds`: the ticket is burned (`w1`) and the proceeds paid out. -/
structure Settles (P : Platform X) (cx : CallContext) (lockId noteId : Felt)
    (pool : ContractAddress) (s t : State X) (out : List OpenNoteDeposit) (after : U256)
    (w1 : X) : Prop where
  unsettled : (s.storage.locks lockId).proceedsSettled = false
  opened : (s.storage.locks lockId).status = .opened
  expired : (s.storage.locks lockId).expiry.val ≤ cx.blockTimestamp.val
  burned : Burned P (s.storage.accounted (s.storage.locks lockId).ticket)
    (s.storage.locks lockId).ticket s.world w1
  paid : PaidPositive P (s.storage.accounted (s.storage.locks lockId).tokenA)
    (s.storage.locks lockId).tokenA pool (s.storage.locks lockId).earnedA after w1 t.world
  storage_eq : t.storage =
    (s.storage.setAccounted (s.storage.locks lockId).tokenA after).setLock lockId
      { s.storage.locks lockId with
        proceedsSettled := true,
        status := if (s.storage.locks lockId).collateralReleased then .closed
          else (s.storage.locks lockId).status }
  events_eq : t.events = s.events ++ [.lockProceedsSettled lockId
    (s.storage.locks lockId).tokenA (s.storage.locks lockId).earnedA]
  out_eq : out = if (s.storage.locks lockId).earnedA = 0 then []
    else [⟨noteId, (s.storage.locks lockId).tokenA, (s.storage.locks lockId).earnedA⟩]

theorem returns_settleProceeds :
    Returns (settleProceeds P cx lockId noteId pool) s out t ↔
      ∃ after w1, Settles P cx lockId noteId pool s t out after w1 := by
  simp only [settleProceeds, returns_assert_bind, returns_readStorage_bind,
    returns_consumeTicket_bind, returns_payOutPositive_bind, returns_writeStorage_bind,
    returns_emit_bind, returns_pure]
  constructor
  · rintro ⟨h1, h2, h3, w1, hburn, after, w2, hpaid, rfl, rfl⟩
    exact ⟨after, w1, h1, h2, h3, hburn, hpaid, rfl, rfl, rfl⟩
  · rintro ⟨after, w1, h⟩
    refine ⟨h.unsettled, h.opened, h.expired, w1, h.burned, after, t.world, h.paid, h.out_eq, ?_⟩
    rw [← h.storage_eq, ← h.events_eq]

/-- A run of `release_collateral`: the ticket is burned (`w1`) and the collateral paid back. -/
structure Releases (P : Platform X) (cx : CallContext) (lockId noteId : Felt)
    (pool : ContractAddress) (s t : State X) (out : List OpenNoteDeposit) (after : U256)
    (w1 : X) : Prop where
  unreleased : (s.storage.locks lockId).collateralReleased = false
  opened : (s.storage.locks lockId).status = .opened
  expired : (s.storage.locks lockId).expiry.val ≤ cx.blockTimestamp.val
  burned : Burned P (s.storage.accounted (s.storage.locks lockId).ticket)
    (s.storage.locks lockId).ticket s.world w1
  paid : PaidPositive P (s.storage.accounted (s.storage.locks lockId).tokenB)
    (s.storage.locks lockId).tokenB pool (s.storage.locks lockId).remainingB after w1 t.world
  storage_eq : t.storage =
    (s.storage.setAccounted (s.storage.locks lockId).tokenB after).setLock lockId
      { s.storage.locks lockId with
        collateralReleased := true,
        status := if (s.storage.locks lockId).proceedsSettled then .closed
          else (s.storage.locks lockId).status }
  events_eq : t.events = s.events ++ [.lockCollateralReleased lockId
    (s.storage.locks lockId).tokenB (s.storage.locks lockId).remainingB]
  out_eq : out = if (s.storage.locks lockId).remainingB = 0 then []
    else [⟨noteId, (s.storage.locks lockId).tokenB, (s.storage.locks lockId).remainingB⟩]

theorem returns_releaseCollateral :
    Returns (releaseCollateral P cx lockId noteId pool) s out t ↔
      ∃ after w1, Releases P cx lockId noteId pool s t out after w1 := by
  simp only [releaseCollateral, returns_assert_bind, returns_readStorage_bind,
    returns_consumeTicket_bind, returns_payOutPositive_bind, returns_writeStorage_bind,
    returns_emit_bind, returns_pure]
  constructor
  · rintro ⟨h1, h2, h3, w1, hburn, after, w2, hpaid, rfl, rfl⟩
    exact ⟨after, w1, h1, h2, h3, hburn, hpaid, rfl, rfl, rfl⟩
  · rintro ⟨after, w1, h⟩
    refine ⟨h.unreleased, h.opened, h.expired, w1, h.burned, after, t.world, h.paid, h.out_eq, ?_⟩
    rw [← h.storage_eq, ← h.events_eq]

end App20.Escrow
