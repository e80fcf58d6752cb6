import App20.Starknet.Runtime

/-!
# The chat contract

Messages are posted by the pool. A message whose transaction prepared its funding pays a deposit of
the fixed amount back, when exactly this amount has come in since the snapshot. `balance_of` is a
view of the token, and changes nothing.

* `outcome_of_returns`: what an entry point does when it returns.
-/

namespace App20.Chat

open App20.Lib App20.Lib.Exec App20.Starknet

/-! ## Data -/

def maxCtFelts : Nat := 140
def chatRecoveryAmount : U128 := 7

/-- The balance before the transfer, observed in the same outer transaction as the invocation. -/
structure ChatFundingSnapshot where
  transactionHash : Felt
  balance : U256
  prepared : Bool

structure Storage where
  pool : ContractAddress
  pubkeys : ContractAddress → Felt × Felt
  messageCount : U64
  usedReplaySlots : Felt → Bool
  fundingSnapshots : ContractAddress → ChatFundingSnapshot

def Storage.setSnapshot (s : Storage) (token : ContractAddress) (f : ChatFundingSnapshot) :
    Storage :=
  { s with fundingSnapshots := Function.update s.fundingSnapshots token f }

def Storage.useSlot (s : Storage) (slot : Felt) : Storage :=
  { s with usedReplaySlots := Function.update s.usedReplaySlots slot true }

def Storage.setPubkey (s : Storage) (account : ContractAddress) (pk : Felt × Felt) : Storage :=
  { s with pubkeys := Function.update s.pubkeys account pk }

inductive ChatError where
  | badPool | ctTooLarge | actionIdUsed | protectedActionRequired | payloadMismatch | zeroToken
  | balanceDeficit | shortFill | excessFill | approveFailed

/-- What a message carries besides its token and its note. -/
structure Message where
  ephPk : Felt × Felt
  viewTag : U8
  nonce : Felt × Felt
  ct : List Felt
  actionId : Felt

inductive Event where
  | messagePosted (index : U64) (message : Message)

def construct (pool : ContractAddress) : Storage :=
  ⟨pool, fun _ => (0, 0), 0, fun _ => false, fun _ => ⟨0, 0, false⟩⟩

/-- Where the chat runs. A call into another contract gives `none` when it reverts. -/
structure Platform (X : Type) where
  contractAddress : ContractAddress
  poseidonHashSpan : List Felt → Felt
  balanceOf : ContractAddress → ContractAddress → X → Option U256
  approve : ContractAddress → ContractAddress → U256 → X → Option (Bool × X)

structure CallContext where
  caller : ContractAddress
  transactionHash : Felt

abbrev State (X : Type) := ContractState Storage Event X

abbrev ChatM (X : Type) := ContractM ChatError Storage Event X

variable {X : Type} (P : Platform X)

/-! ## Entry points -/

def computePayloadCommitment (token : ContractAddress) (noteId : Felt) (m : Message) : Felt :=
  P.poseidonHashSpan ([shortString "APP20_MAIL_PAYLOAD_V2", into token, noteId, m.ephPk.1,
    m.ephPk.2, into m.viewTag, m.nonce.1, m.nonce.2, Fin.ofNat fieldPrime m.ct.length] ++ m.ct ++
    [m.actionId])

def balance (token : ContractAddress) : ChatM X U256 :=
  external fun x => (P.balanceOf token P.contractAddress x).map fun b => (b, x)

/-- The deposit of a message whose funding was prepared in this transaction. -/
def payBack (token : ContractAddress) (noteId : Felt) (snapshot : ChatFundingSnapshot) :
    ChatM X (List OpenNoteDeposit) := do
  writeStorage fun s => s.setSnapshot token { snapshot with prepared := false }
  let pool := (← readStorage).pool
  let balance ← balance P token
  assert (snapshot.balance.val ≤ balance.val) (.error .balanceDeficit)
  let received ← expect (checkedSub balance snapshot.balance) .underflow
  let recoveryAmount : U256 := into chatRecoveryAmount
  assert (recoveryAmount ≤ received) (.error .shortFill)
  assert (received = recoveryAmount) (.error .excessFill)
  let approved ← external (P.approve token pool recoveryAmount)
  assert (approved = true) (.error .approveFailed)
  return [⟨noteId, token, chatRecoveryAmount⟩]

def postMessage (cx : CallContext) (token : ContractAddress) (noteId : Felt) (m : Message) :
    ChatM X (List OpenNoteDeposit) := do
  let index := (← readStorage).messageCount
  let count ← expect (checkedAdd index 1) .overflow
  writeStorage fun s => { s with messageCount := count }
  emit (.messagePosted index m)
  let snapshot := (← readStorage).fundingSnapshots token
  if snapshot.prepared = false ∨ snapshot.transactionHash ≠ cx.transactionHash then
    return []
  else
    payBack P token noteId snapshot

def prepareFunding (cx : CallContext) (token : ContractAddress) : ChatM X (List OpenNoteDeposit) := do
  assert (token ≠ 0) (.error .zeroToken)
  let balance ← balance P token
  writeStorage fun s => s.setSnapshot token ⟨cx.transactionHash, balance, true⟩
  return []

/-- The replay slot and the payload commitment of a protected action, which the pool passes on. -/
def privacyCompute (identityKey : Felt) (token : ContractAddress) (noteId : Felt) (m : Message) :
    Except (Panic ChatError) (Felt × Felt) := do
  check (m.actionId ≠ 0) .protectedActionRequired
  check (m.ct.length ≤ maxCtFelts) .ctTooLarge
  let payload := computePayloadCommitment P token noteId m
  let replaySlot :=
    P.poseidonHashSpan [shortString "APP20_MAIL_ACTION_V2", identityKey, m.actionId]
  return (replaySlot, payload)

def privacyInvokeWithComputation (cx : CallContext) (replaySlot payloadCommitment : Felt)
    (token : ContractAddress) (noteId : Felt) (m : Message) : ChatM X (List OpenNoteDeposit) := do
  assert (cx.caller = (← readStorage).pool) (.error .badPool)
  assert (m.actionId ≠ 0) (.error .protectedActionRequired)
  assert (m.ct.length ≤ maxCtFelts) (.error .ctTooLarge)
  assert (payloadCommitment = computePayloadCommitment P token noteId m) (.error .payloadMismatch)
  assert ((← readStorage).usedReplaySlots replaySlot = false) (.error .actionIdUsed)
  writeStorage fun s => s.useSlot replaySlot
  postMessage P cx token noteId m

def privacyInvoke (cx : CallContext) (token : ContractAddress) (noteId : Felt) (m : Message) :
    ChatM X (List OpenNoteDeposit) := do
  assert (cx.caller = (← readStorage).pool) (.error .badPool)
  assert (m.ct.length ≤ maxCtFelts) (.error .ctTooLarge)
  assert (m.actionId = 0) (.error .protectedActionRequired)
  postMessage P cx token noteId m

def registerPubkey (cx : CallContext) (pk : Felt × Felt) : ChatM X (List OpenNoteDeposit) := do
  writeStorage fun s => s.setPubkey cx.caller pk
  return []

/-- The calls that change the chat. The address of the pool that the invocations also take is never
looked at. -/
inductive Call where
  | prepareFunding (token : ContractAddress)
  | privacyInvokeWithComputation (replaySlot payloadCommitment : Felt) (token : ContractAddress)
      (noteId : Felt) (message : Message)
  | privacyInvoke (token : ContractAddress) (noteId : Felt) (message : Message)
  | registerPubkey (pk : Felt × Felt)

def dispatch (cx : CallContext) : Call → ChatM X (List OpenNoteDeposit)
  | .prepareFunding token => prepareFunding P cx token
  | .privacyInvokeWithComputation replaySlot payloadCommitment token noteId message =>
    privacyInvokeWithComputation P cx replaySlot payloadCommitment token noteId message
  | .privacyInvoke token noteId message => privacyInvoke P cx token noteId message
  | .registerPubkey pk => registerPubkey cx pk

/-! ## What the entry points do -/

/-- A posted message: its index, and its deposit when it pays one back. -/
inductive Posts (cx : CallContext) (s : State X) (token : ContractAddress) (noteId : Felt)
    (m : Message) : List OpenNoteDeposit → State X → Prop
  | plain {count : U64} : count.val = s.storage.messageCount.val + 1 →
    (s.storage.fundingSnapshots token).prepared = false ∨
      (s.storage.fundingSnapshots token).transactionHash ≠ cx.transactionHash →
    Posts cx s token noteId m [] ⟨{ s.storage with messageCount := count }, s.world,
        s.events ++ [.messagePosted s.storage.messageCount m]⟩
  | paid {count : U64} {balance : U256} {world : X} : count.val = s.storage.messageCount.val + 1 →
    (s.storage.fundingSnapshots token).prepared = true →
    (s.storage.fundingSnapshots token).transactionHash = cx.transactionHash →
    P.balanceOf token P.contractAddress s.world = some balance →
    balance.val = (s.storage.fundingSnapshots token).balance.val + chatRecoveryAmount.val →
    Posts cx s token noteId m [⟨noteId, token, chatRecoveryAmount⟩]
      ⟨{ s.storage with messageCount := count }.setSnapshot token
          { s.storage.fundingSnapshots token with prepared := false }, world,
        s.events ++ [.messagePosted s.storage.messageCount m]⟩

inductive Outcome (cx : CallContext) (s : State X) : Call → List OpenNoteDeposit → State X → Prop
  | prepared {token : ContractAddress} {balance : U256} :
    P.balanceOf token P.contractAddress s.world = some balance →
    Outcome cx s (.prepareFunding token) []
      { s with storage := s.storage.setSnapshot token ⟨cx.transactionHash, balance, true⟩ }
  | guarded {replaySlot payloadCommitment : Felt} {token : ContractAddress} {noteId : Felt}
      {m : Message} {ds : List OpenNoteDeposit} {t : State X} :
    cx.caller = s.storage.pool → s.storage.usedReplaySlots replaySlot = false →
    Posts P cx { s with storage := s.storage.useSlot replaySlot } token noteId m ds t →
    Outcome cx s (.privacyInvokeWithComputation replaySlot payloadCommitment token noteId m) ds t
  | invoked {token : ContractAddress} {noteId : Felt} {m : Message} {ds : List OpenNoteDeposit}
      {t : State X} :
    cx.caller = s.storage.pool → Posts P cx s token noteId m ds t →
    Outcome cx s (.privacyInvoke token noteId m) ds t
  | registered {pk : Felt × Felt} :
    Outcome cx s (.registerPubkey pk) []
      { s with storage := s.storage.setPubkey cx.caller pk }

variable {P} {cx : CallContext} {s t : State X} {ds : List OpenNoteDeposit}

variable {token : ContractAddress}

theorem returns_balance_bind {β : Type} {k : U256 → ChatM X β} {b : β} :
    Returns (balance P token >>= k) s b t ↔
      ∃ n, P.balanceOf token P.contractAddress s.world = some n ∧ Returns (k n) s b t := by
  unfold balance
  rw [returns_external_bind]
  constructor
  · intro h
    obtain ⟨n, x, hread, hk⟩ := h
    obtain ⟨n', hn', heq⟩ := Option.map_eq_some_iff.mp hread
    cases heq
    exact ⟨n, hn', hk⟩
  · intro h
    obtain ⟨n, hn, hk⟩ := h
    exact ⟨n, s.world, by rw [hn]; rfl, hk⟩

/-- A deposit is paid back when exactly its amount came in. -/
theorem returns_payBack {noteId : Felt} {snapshot : ChatFundingSnapshot}
    (h : Returns (payBack P token noteId snapshot) s ds t) :
    ∃ balance world, P.balanceOf token P.contractAddress s.world = some balance ∧
      balance.val = snapshot.balance.val + chatRecoveryAmount.val ∧
      ds = [⟨noteId, token, chatRecoveryAmount⟩] ∧
      t = ⟨s.storage.setSnapshot token { snapshot with prepared := false }, world, s.events⟩ := by
  simp only [payBack, returns_writeStorage_bind, returns_readStorage_bind, returns_balance_bind,
    returns_assert_bind, returns_expect_bind, returns_external_bind, returns_pure,
    checkedSub_eq_some] at h
  obtain ⟨balance, hbalance, -, received, hreceived, -, hexact, _, world, -, -, rfl, rfl⟩ := h
  refine ⟨balance, world, hbalance, ?_, rfl, rfl⟩
  rw [hreceived, hexact, into_val]
  exact Nat.add_comm _ _

theorem posts_of_returns {noteId : Felt} {m : Message}
    (h : Returns (postMessage P cx token noteId m) s ds t) : Posts P cx s token noteId m ds t := by
  simp only [postMessage, returns_readStorage_bind, returns_expect_bind, checkedAdd_eq_some,
    returns_writeStorage_bind, returns_emit_bind] at h
  obtain ⟨count, hcount, h⟩ := h
  rw [returns_ite] at h
  rcases h with ⟨hstale, h⟩ | ⟨hfresh, h⟩
  · obtain ⟨rfl, rfl⟩ := returns_pure.mp h
    exact .plain hcount hstale
  · obtain ⟨balance, world, hbalance, hreceived, rfl, rfl⟩ := returns_payBack h
    obtain ⟨hprepared, hhash⟩ := not_or.mp hfresh
    exact .paid hcount (Bool.not_eq_false _ ▸ hprepared) (not_not.mp hhash) hbalance hreceived

theorem outcome_of_returns {call : Call} (h : Returns (dispatch P cx call) s ds t) :
    Outcome P cx s call ds t := by
  cases call with
  | prepareFunding token =>
    simp only [dispatch, prepareFunding, returns_assert_bind, returns_balance_bind,
      returns_writeStorage_bind, returns_pure] at h
    obtain ⟨-, balance, hbalance, rfl, rfl⟩ := h
    exact .prepared hbalance
  | privacyInvokeWithComputation replaySlot payloadCommitment token noteId m =>
    simp only [dispatch, privacyInvokeWithComputation, returns_readStorage_bind,
      returns_assert_bind, returns_writeStorage_bind] at h
    obtain ⟨hpool, -, -, -, hunused, hpost⟩ := h
    exact .guarded hpool hunused (posts_of_returns hpost)
  | privacyInvoke token noteId m =>
    simp only [dispatch, privacyInvoke, returns_readStorage_bind, returns_assert_bind] at h
    obtain ⟨hpool, -, -, hpost⟩ := h
    exact .invoked hpool (posts_of_returns hpost)
  | registerPubkey pk =>
    simp only [dispatch, registerPubkey, returns_writeStorage_bind, returns_pure] at h
    obtain ⟨rfl, rfl⟩ := h
    exact .registered

end App20.Chat
