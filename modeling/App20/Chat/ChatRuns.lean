import App20.Chat.Contract
import App20.Lib.Run

/-!
# Runs of the chat

Anybody may call the chat, in any transaction and in any order with what other contracts do. The
hashes of transactions differ. A call that returns leaves a receipt.

* `chat_lawful`: what holds over every run. Messages are numbered as they are posted, no replay slot
  is used twice, every deposit is matched with a snapshot of its own in its transaction and with
  what came in since, and all deposits of a token together are no more than its balance rose.
-/

namespace App20.Chat

open App20.Lib App20.Lib.Exec App20.Starknet
open Function (update update_self update_of_ne)

variable {X : Type} (P : Platform X)

/-! ## The system -/

/-- A call that returned, with the world that it found. -/
structure Receipt (X : Type) where
  transactionHash : Felt
  world : X
  caller : ContractAddress
  call : Call
  deposits : List OpenNoteDeposit

structure Sys (X : Type) where
  state : State X
  transactionHash : Felt
  /-- The hashes of all transactions so far. -/
  hashes : List Felt
  receipts : List (Receipt X)

inductive Action (X : Type) where
  /-- The next transaction. -/
  | begin (hash : Felt)
  /-- Other contracts change the world. -/
  | environment (world : X)
  | call (caller : ContractAddress) (call : Call)

def step (s : Sys X) : Action X → Sys X
  | .begin hash =>
    if hash ∈ s.hashes then s
    else { s with transactionHash := hash, hashes := hash :: s.hashes }
  | .environment world => { s with state := { s.state with world } }
  | .call caller call =>
    match (dispatch P ⟨caller, s.transactionHash⟩ call).run s.state with
    | .ok (ds, t) =>
      { s with state := t
               receipts := s.receipts ++ [⟨s.transactionHash, s.state.world, caller, call, ds⟩] }
    | .error _ => s

/-- The chat in the transaction that deploys it. -/
def deployed (pool : ContractAddress) (world : X) (hash : Felt) : Sys X :=
  ⟨⟨construct pool, world, []⟩, hash, [hash], []⟩

variable {P}

/-- A call reverts, or returns and leaves its receipt. -/
theorem step_call (s : Sys X) (caller : ContractAddress) (call : Call) :
    step P s (.call caller call) = s ∨
      ∃ ds t, Outcome P ⟨caller, s.transactionHash⟩ s.state call ds t ∧
        step P s (.call caller call) =
          { s with state := t
                   receipts := s.receipts ++
                    [⟨s.transactionHash, s.state.world, caller, call, ds⟩] } := by
  unfold step
  dsimp only
  split
  · rename_i ds t hrun
    exact Or.inr ⟨ds, t, outcome_of_returns hrun, rfl⟩
  · exact Or.inl rfl

/-- The invariants that beginnings, other contracts and calls that return keep. -/
theorem step_invariant {I : Sys X → Prop}
    (hbegin : ∀ s hash, hash ∉ s.hashes → I s →
      I { s with transactionHash := hash, hashes := hash :: s.hashes })
    (hworld : ∀ (s : Sys X) world, I s → I { s with state := { s.state with world } })
    (hcall : ∀ (s : Sys X) caller call ds t,
      Outcome P ⟨caller, s.transactionHash⟩ s.state call ds t → I s →
        I { s with state := t
                   receipts := s.receipts ++
                    [⟨s.transactionHash, s.state.world, caller, call, ds⟩] })
    (s : Sys X) (a : Action X) (h : I s) : I (step P s a) := by
  cases a with
  | begin hash =>
    unfold step
    dsimp only
    split
    · exact h
    · rename_i hfresh
      exact hbegin s hash hfresh h
  | environment world => exact hworld s world h
  | call caller call =>
    rcases step_call s caller call with heq | ⟨ds, t, houtcome, heq⟩
    · rw [heq]
      exact h
    · rw [heq]
      exact hcall s caller call ds t houtcome h

variable {receipts : List (Receipt X)} {r : Receipt X} {cx : CallContext} {s t : State X}
  {token : ContractAddress} {noteId : Felt} {m : Message} {ds : List OpenNoteDeposit}

theorem filterMap_concat_none {β : Type} {f : Receipt X → Option β} (h : f r = none) :
    (receipts ++ [r]).filterMap f = receipts.filterMap f := by
  rw [List.filterMap_append, List.filterMap_cons_none h, List.filterMap_nil, List.append_nil]

theorem filterMap_concat_some {β : Type} {f : Receipt X → Option β} {b : β} (h : f r = some b) :
    (receipts ++ [r]).filterMap f = receipts.filterMap f ++ [b] := by
  rw [List.filterMap_append, List.filterMap_cons_some h, List.filterMap_nil]

/-! ## Messages -/

def Call.message? : Call → Option Message
  | .prepareFunding _ => none
  | .privacyInvokeWithComputation _ _ _ _ m => some m
  | .privacyInvoke _ _ m => some m
  | .registerPubkey _ => none

/-- The messages of the calls that returned. -/
def posted (receipts : List (Receipt X)) : List Message :=
  receipts.filterMap fun r => r.call.message?

def Event.index : Event → U64
  | .messagePosted index _ => index

def Event.message : Event → Message
  | .messagePosted _ m => m

/-- The events are the posted messages, numbered from zero up to the count. -/
structure Numbered (s : Sys X) : Prop where
  messages : s.state.events.map Event.message = posted s.receipts
  indices : (s.state.events.map fun e => e.index.val) = List.range s.state.storage.messageCount.val

theorem posts_message (h : Posts P cx s token noteId m ds t) :
    t.events = s.events ++ [.messagePosted s.storage.messageCount m] ∧
      t.storage.messageCount.val = s.storage.messageCount.val + 1 := by
  cases h with
  | plain hcount _ | paid hcount _ _ _ _ => exact ⟨rfl, hcount⟩

theorem outcome_message {call : Call} (h : Outcome P cx s call ds t) :
    (call.message? = none ∧ t.events = s.events ∧ t.storage.messageCount = s.storage.messageCount) ∨
      ∃ m, call.message? = some m ∧
        t.events = s.events ++ [.messagePosted s.storage.messageCount m] ∧
        t.storage.messageCount.val = s.storage.messageCount.val + 1 := by
  cases h with
  | prepared _ | registered => exact Or.inl ⟨rfl, rfl, rfl⟩
  | guarded _ _ hpost =>
    have hmessage := posts_message hpost
    exact Or.inr ⟨_, rfl, hmessage⟩
  | invoked _ hpost => exact Or.inr ⟨_, rfl, posts_message hpost⟩

theorem numbered_step (s : Sys X) (a : Action X) (h : Numbered s) : Numbered (step P s a) := by
  refine step_invariant (I := Numbered) ?_ ?_ ?_ s a h
  · exact fun s hash _ h => ⟨h.messages, h.indices⟩
  · exact fun s world h => ⟨h.messages, h.indices⟩
  · intro s caller call ds t houtcome h
    rcases outcome_message houtcome with ⟨hnone, hevents, hcount⟩ | ⟨m, hsome, hevents, hcount⟩
    · refine ⟨?_, ?_⟩
      · show t.events.map Event.message = posted (s.receipts ++ [_])
        rw [posted, filterMap_concat_none hnone, hevents]
        exact h.messages
      · show (t.events.map fun e => e.index.val) = List.range t.storage.messageCount.val
        rw [hevents, hcount]
        exact h.indices
    · refine ⟨?_, ?_⟩
      · show t.events.map Event.message = posted (s.receipts ++ [_])
        rw [posted, filterMap_concat_some hsome, hevents, List.map_append, h.messages]
        rfl
      · show (t.events.map fun e => e.index.val) = List.range t.storage.messageCount.val
        rw [hevents, List.map_append, h.indices, hcount, List.range_succ]
        rfl

/-! ## Replay slots -/

def Call.slot? : Call → Option Felt
  | .privacyInvokeWithComputation slot _ _ _ _ => some slot
  | _ => none

/-- The replay slots of the calls that returned. -/
def usedSlots (receipts : List (Receipt X)) : List Felt := receipts.filterMap fun r => r.call.slot?

structure UsedOnce (s : Sys X) : Prop where
  distinct : (usedSlots s.receipts).Nodup
  used : ∀ slot, slot ∈ usedSlots s.receipts ↔ s.state.storage.usedReplaySlots slot = true

theorem posts_slots (h : Posts P cx s token noteId m ds t) :
    t.storage.usedReplaySlots = s.storage.usedReplaySlots := by
  cases h with
  | plain | paid => rfl

theorem outcome_slot {call : Call} (h : Outcome P cx s call ds t) :
    (call.slot? = none ∧ t.storage.usedReplaySlots = s.storage.usedReplaySlots) ∨
      ∃ slot, call.slot? = some slot ∧ s.storage.usedReplaySlots slot = false ∧
        t.storage.usedReplaySlots = update s.storage.usedReplaySlots slot true := by
  cases h with
  | prepared _ | registered => exact Or.inl ⟨rfl, rfl⟩
  | guarded _ hunused hpost =>
    have hslots := posts_slots hpost
    exact Or.inr ⟨_, rfl, hunused, hslots⟩
  | invoked _ hpost => exact Or.inl ⟨rfl, posts_slots hpost⟩

theorem usedOnce_step (s : Sys X) (a : Action X) (h : UsedOnce s) : UsedOnce (step P s a) := by
  refine step_invariant (I := UsedOnce) ?_ ?_ ?_ s a h
  · exact fun s hash _ h => ⟨h.distinct, h.used⟩
  · exact fun s world h => ⟨h.distinct, h.used⟩
  · intro s caller call ds t houtcome h
    rcases outcome_slot houtcome with ⟨hnone, hsame⟩ | ⟨slot, hsome, hunused, hupdate⟩
    · have hslots : usedSlots (s.receipts ++ [⟨s.transactionHash, s.state.world, caller, call, ds⟩]) =
          usedSlots s.receipts := filterMap_concat_none hnone
      refine ⟨?_, fun slot => ?_⟩
      · rw [hslots]
        exact h.distinct
      · rw [hslots]
        show _ ↔ t.storage.usedReplaySlots slot = true
        rw [hsame]
        exact h.used slot
    · have hslots : usedSlots (s.receipts ++ [⟨s.transactionHash, s.state.world, caller, call, ds⟩]) =
          usedSlots s.receipts ++ [slot] := filterMap_concat_some hsome
      have hnew : slot ∉ usedSlots s.receipts := by
        intro hmem
        rw [(h.used slot).mp hmem] at hunused
        cases hunused
      refine ⟨?_, fun slot' => ?_⟩
      · rw [hslots]
        exact List.nodup_append.mpr ⟨h.distinct, List.nodup_singleton _, fun x hx y hy hxy =>
          hnew (List.mem_singleton.mp hy ▸ hxy ▸ hx)⟩
      · rw [hslots, List.mem_append, List.mem_singleton]
        show _ ↔ t.storage.usedReplaySlots slot' = true
        rw [hupdate]
        by_cases hself : slot' = slot
        · rw [hself, update_self]
          exact ⟨fun _ => rfl, fun _ => Or.inr rfl⟩
        · rw [update_of_ne hself, ← h.used slot']
          exact ⟨fun hor => hor.resolve_right hself, Or.inl⟩

/-! ## Deposits -/

inductive Funding (P : Platform X) (hash : Felt) (s : State X) (call : Call) :
    List OpenNoteDeposit → State X → Prop
  | prepared {token : ContractAddress} {balance : U256} {t : State X} :
    call = .prepareFunding token → P.balanceOf token P.contractAddress s.world = some balance →
    t.storage.fundingSnapshots = update s.storage.fundingSnapshots token ⟨hash, balance, true⟩ →
    t.world = s.world → Funding P hash s call [] t
  | none {t : State X} : (∀ token, call ≠ .prepareFunding token) →
    t.storage.fundingSnapshots = s.storage.fundingSnapshots → t.world = s.world →
    Funding P hash s call [] t
  | paid {token : ContractAddress} {noteId : Felt} {balance : U256} {t : State X} :
    (∀ token, call ≠ .prepareFunding token) →
    (s.storage.fundingSnapshots token).prepared = true →
    (s.storage.fundingSnapshots token).transactionHash = hash →
    P.balanceOf token P.contractAddress s.world = some balance →
    balance.val = (s.storage.fundingSnapshots token).balance.val + chatRecoveryAmount.val →
    t.storage.fundingSnapshots = update s.storage.fundingSnapshots token
      { s.storage.fundingSnapshots token with prepared := false } →
    Funding P hash s call [⟨noteId, token, chatRecoveryAmount⟩] t

theorem funding_of_posts (s' : State X) {call : Call}
    (hcall : ∀ token, call ≠ .prepareFunding token)
    (hsnapshots : s'.storage.fundingSnapshots = s.storage.fundingSnapshots)
    (hworld : s'.world = s.world) (h : Posts P cx s' token noteId m ds t) :
    Funding P cx.transactionHash s call ds t := by
  cases h with
  | plain _ _ => exact .none hcall hsnapshots hworld
  | paid _ hprepared hhash hbalance hreceived =>
    rw [hsnapshots] at hprepared hhash hreceived
    rw [hworld] at hbalance
    refine .paid hcall hprepared hhash hbalance hreceived ?_
    rw [← hsnapshots]
    rfl

theorem funding_of_outcome {call : Call} (h : Outcome P cx s call ds t) :
    Funding P cx.transactionHash s call ds t := by
  cases h with
  | prepared hbalance => exact .prepared rfl hbalance rfl rfl
  | @guarded replaySlot _ _ _ _ _ _ _ _ hpost =>
    exact funding_of_posts { s with storage := s.storage.useSlot replaySlot }
      (fun _ => Call.noConfusion) rfl rfl hpost
  | invoked _ hpost => exact funding_of_posts s (fun _ => Call.noConfusion) rfl rfl hpost
  | registered => exact .none (fun _ => Call.noConfusion) rfl rfl

/-- The receipt neither takes a snapshot of the token nor pays a deposit of it. -/
def Receipt.Apart (r : Receipt X) (token : ContractAddress) : Prop :=
  r.call ≠ .prepareFunding token ∧ ∀ d ∈ r.deposits, d.token ≠ token

/-- The last that happened to the token is a snapshot of this balance in this transaction. -/
def Awaits (P : Platform X) (receipts : List (Receipt X)) (hash : Felt) (token : ContractAddress)
    (balance : U256) : Prop :=
  ∃ before snapshot since, receipts = before ++ snapshot :: since ∧
    snapshot.call = .prepareFunding token ∧ snapshot.transactionHash = hash ∧
    P.balanceOf token P.contractAddress snapshot.world = some balance ∧ ∀ r ∈ since, r.Apart token

/-- The deposit of a receipt is its only one and of the fixed amount. A snapshot of its token was
taken before in the same transaction, nothing happened to the token since, and exactly the amount
came in between the two. -/
structure MatchedDeposit (P : Platform X) (before : List (Receipt X)) (r : Receipt X)
    (d : OpenNoteDeposit) : Prop where
  posted : ∀ token, r.call ≠ .prepareFunding token
  only : r.deposits = [d]
  amount : d.amount = chatRecoveryAmount
  received : ∃ observed balance, Awaits P before r.transactionHash d.token observed ∧
    P.balanceOf d.token P.contractAddress r.world = some balance ∧
    balance.val = observed.val + chatRecoveryAmount.val

def Matched (P : Platform X) (receipts : List (Receipt X)) : Prop :=
  ∀ before r since, receipts = before ++ r :: since → ∀ d ∈ r.deposits, MatchedDeposit P before r d

theorem Awaits.append {hash : Felt} {balance : U256} (h : Awaits P receipts hash token balance)
    (hr : r.Apart token) : Awaits P (receipts ++ [r]) hash token balance := by
  obtain ⟨before, snapshot, since, rfl, hcall, hhash, hbalance, hsince⟩ := h
  refine ⟨before, snapshot, since ++ [r], ?_, hcall, hhash, hbalance, ?_⟩
  · rw [List.append_assoc, List.cons_append]
  · intro r' hr'
    rcases List.mem_append.mp hr' with hr' | hr'
    · exact hsince r' hr'
    · rw [List.mem_singleton.mp hr']
      exact hr

theorem Matched.append (h : Matched P receipts)
    (hr : ∀ d ∈ r.deposits, MatchedDeposit P receipts r d) : Matched P (receipts ++ [r]) := by
  intro before r' since heq d hd
  rcases List.eq_nil_or_concat since with rfl | ⟨since', last, rfl⟩
  · obtain ⟨rfl, hlast⟩ := List.append_inj' heq rfl
    cases hlast
    exact hr d hd
  · rw [List.concat_eq_append, ← List.cons_append, ← List.append_assoc] at heq
    obtain ⟨hinit, -⟩ := List.append_inj' heq rfl
    exact h before r' since' hinit d hd

theorem Matched.snapshot_between {before between after : List (Receipt X)} {r' : Receipt X}
    {d d' : OpenNoteDeposit} (h : Matched P receipts)
    (heq : receipts = before ++ r :: (between ++ r' :: after)) (hd : d ∈ r.deposits)
    (hd' : d' ∈ r'.deposits) (htoken : d'.token = d.token) :
    ∃ q ∈ between, q.call = .prepareFunding d.token ∧ q.transactionHash = r'.transactionHash := by
  have hfirst := h before r _ heq d hd
  have heq' : receipts = (before ++ r :: between) ++ r' :: after := by
    rw [heq, List.append_assoc, List.cons_append]
  obtain ⟨_, _, ⟨old, snapshot, since, hsplit, hcall, hhash, -, hsince⟩, -⟩ :=
    (h _ r' after heq' d' hd').received
  rw [htoken] at hcall
  have hne : r ≠ snapshot := fun hsame => hfirst.posted _ (hsame ▸ hcall)
  rcases List.append_eq_append_iff.mp hsplit with ⟨c, rfl, hc⟩ | ⟨c, rfl, hc⟩
  · cases c with
    | nil => exact absurd (List.cons.inj hc).1 hne
    | cons x c =>
      obtain ⟨rfl, rfl⟩ := List.cons.inj hc
      exact ⟨snapshot, List.mem_append_right _ List.mem_cons_self, hcall, hhash⟩
  · cases c with
    | nil => exact absurd (List.cons.inj hc).1.symm hne
    | cons x c =>
      obtain ⟨-, rfl⟩ := List.cons.inj hc
      have hapart := hsince r (List.mem_append_right _ List.mem_cons_self)
      exact absurd htoken.symm (hapart.2 d hd)

/-- The snapshots that are still valid are awaiting their deposits. -/
structure Funded (P : Platform X) (s : Sys X) : Prop where
  current : s.transactionHash ∈ s.hashes
  known : ∀ token, (s.state.storage.fundingSnapshots token).prepared = true →
    (s.state.storage.fundingSnapshots token).transactionHash ∈ s.hashes
  awaits : ∀ token, (s.state.storage.fundingSnapshots token).prepared = true →
    (s.state.storage.fundingSnapshots token).transactionHash = s.transactionHash →
      Awaits P s.receipts s.transactionHash token (s.state.storage.fundingSnapshots token).balance
  matched : Matched P s.receipts

theorem Funded.call {s : Sys X} (h : Funded P s) {caller : ContractAddress} {call : Call}
    (hfunding : Funding P s.transactionHash s.state call ds t) :
    Funded P { s with state := t
                      receipts := s.receipts ++
                        [⟨s.transactionHash, s.state.world, caller, call, ds⟩] } := by
  cases hfunding with
  | @prepared token balance _ hcall hbalance hsnapshots hworld =>
    refine ⟨h.current, fun token' => ?_, fun token' => ?_, h.matched.append fun d hd => ?_⟩
    · dsimp only
      rw [hsnapshots]
      by_cases hself : token' = token
      · rw [hself, update_self]
        exact fun _ => h.current
      · rw [update_of_ne hself]
        exact h.known token'
    · dsimp only
      rw [hsnapshots]
      by_cases hself : token' = token
      · rw [hself, update_self]
        intro _ _
        exact ⟨s.receipts, _, [], rfl, hcall, rfl, hbalance,
          fun r hr => (List.not_mem_nil hr).elim⟩
      · rw [update_of_ne hself]
        refine fun hprepared hhash => (h.awaits token' hprepared hhash).append ⟨?_, ?_⟩
        · intro hcall'
          exact hself (Call.prepareFunding.inj (hcall'.symm.trans hcall))
        · exact fun d hd => (List.not_mem_nil hd).elim
    · exact (List.not_mem_nil hd).elim
  | none hcall hsnapshots hworld =>
    refine ⟨h.current, fun token => ?_, fun token => ?_, h.matched.append fun d hd => ?_⟩
    · dsimp only
      rw [hsnapshots]
      exact h.known token
    · dsimp only
      rw [hsnapshots]
      exact fun hprepared hhash => (h.awaits token hprepared hhash).append
        ⟨hcall token, fun d hd => (List.not_mem_nil hd).elim⟩
    · exact (List.not_mem_nil hd).elim
  | @paid token noteId balance _ hcall hprepared hhash hbalance hreceived hsnapshots =>
    refine ⟨h.current, fun token' => ?_, fun token' => ?_, h.matched.append fun d hd => ?_⟩
    · dsimp only
      rw [hsnapshots]
      by_cases hself : token' = token
      · rw [hself, update_self]
        exact fun hfalse => Bool.noConfusion hfalse
      · rw [update_of_ne hself]
        exact h.known token'
    · dsimp only
      rw [hsnapshots]
      by_cases hself : token' = token
      · rw [hself, update_self]
        exact fun hfalse => Bool.noConfusion hfalse
      · rw [update_of_ne hself]
        refine fun hprepared' hhash' => (h.awaits token' hprepared' hhash').append
          ⟨hcall token', fun d hd => ?_⟩
        rw [List.mem_singleton.mp hd]
        exact fun hsame => hself hsame.symm
    · obtain rfl := List.mem_singleton.mp hd
      exact ⟨hcall, rfl, rfl, _, balance, h.awaits token hprepared hhash, hbalance, hreceived⟩

theorem funded_step (s : Sys X) (a : Action X) (h : Funded P s) : Funded P (step P s a) := by
  refine step_invariant (I := Funded P) ?_ ?_ ?_ s a h
  · intro s hash hfresh h
    refine ⟨List.mem_cons_self, fun token hprepared => ?_, fun token hprepared hhash => ?_,
      h.matched⟩
    · exact List.mem_cons_of_mem _ (h.known token hprepared)
    · have hknown := h.known token hprepared
      rw [show (s.state.storage.fundingSnapshots token).transactionHash = hash from hhash] at hknown
      exact absurd hknown hfresh
  · exact fun s world h => ⟨h.current, h.known, h.awaits, h.matched⟩
  · exact fun s caller call ds t houtcome h => h.call (funding_of_outcome houtcome)

/-! ## All deposits together -/

/-- The balance of the chat that the token gives, in the state of the system. -/
def held (P : Platform X) (token : ContractAddress) (s : Sys X) : Nat :=
  match P.balanceOf token P.contractAddress s.state.world with
  | some balance => balance.val
  | none => 0

/-- The number of deposits of the token that were returned. -/
def paidBack (token : ContractAddress) (receipts : List (Receipt X)) : Nat :=
  ((receipts.flatMap fun r => r.deposits).filter fun d => d.token = token).length

/-- What came in since the snapshot, while it is valid. -/
def pending (P : Platform X) (token : ContractAddress) (s : Sys X) : Nat :=
  if (s.state.storage.fundingSnapshots token).prepared = true ∧
      (s.state.storage.fundingSnapshots token).transactionHash = s.transactionHash then
    held P token s - (s.state.storage.fundingSnapshots token).balance.val
  else 0

theorem held_eq {s : Sys X} {balance : U256}
    (h : P.balanceOf token P.contractAddress s.state.world = some balance) :
    held P token s = balance.val := by
  unfold held
  rw [h]

theorem pending_congr {s t : Sys X}
    (hsnapshots : t.state.storage.fundingSnapshots token = s.state.storage.fundingSnapshots token)
    (hhash : t.transactionHash = s.transactionHash) :
    pending P token t ≤ pending P token s + (held P token t - held P token s) := by
  unfold pending
  rw [hsnapshots, hhash]
  split
  · omega
  · omega

theorem paid_le_call (token : ContractAddress) {s : Sys X} {caller : ContractAddress} {call : Call}
    (h : Funding P s.transactionHash s.state call ds t) :
    let after : Sys X := { s with state := t
                                  receipts := s.receipts ++
                                    [⟨s.transactionHash, s.state.world, caller, call, ds⟩] }
    chatRecoveryAmount.val * paidBack token after.receipts + pending P token after ≤
      chatRecoveryAmount.val * paidBack token s.receipts + pending P token s +
        (held P token after - held P token s) := by
  intro after
  have hreceipts : paidBack token after.receipts =
      paidBack token s.receipts + (ds.filter fun d => d.token = token).length := by
    unfold paidBack
    rw [List.flatMap_append, List.filter_append, List.length_append, List.flatMap_singleton]
  rw [hreceipts]
  cases h with
  | @prepared token' balance _ _ hbalance hsnapshots hworld =>
    rw [List.filter_nil, List.length_nil, Nat.add_zero]
    by_cases hself : token = token'
    · -- the snapshot that was taken is the balance that is held
      have hheld : held P token after = balance.val := by
        apply held_eq
        rw [hself, ← hbalance]
        exact congrArg _ hworld
      have hsnapshot : t.storage.fundingSnapshots token = ⟨s.transactionHash, balance, true⟩ := by
        rw [hsnapshots, hself, update_self]
      have hpending : pending P token after = 0 := by
        unfold pending
        rw [hheld]
        dsimp only [after]
        rw [hsnapshot, Nat.sub_self, ite_self]
      omega
    · have hsame : t.storage.fundingSnapshots token = s.state.storage.fundingSnapshots token := by
        rw [hsnapshots, update_of_ne hself]
      have hle : pending P token after ≤ _ := pending_congr hsame rfl
      omega
  | none _ hsnapshots hworld =>
    rw [List.filter_nil, List.length_nil, Nat.add_zero]
    have hle : pending P token after ≤ _ := pending_congr (congrFun hsnapshots token) rfl
    omega
  | @paid token' noteId balance _ _ hprepared hhash hbalance hreceived hsnapshots =>
    by_cases hself : token = token'
    · -- what came in since the snapshot is paid back
      have hheld : held P token s = balance.val := held_eq (hself ▸ hbalance)
      have hbefore : pending P token s = chatRecoveryAmount.val := by
        unfold pending
        rw [hself, if_pos ⟨hprepared, hhash⟩, ← hself, hheld, hself]
        omega
      have hsnapshot : (t.storage.fundingSnapshots token).prepared = false := by
        rw [hsnapshots, hself, update_self]
      have hafter : pending P token after = 0 :=
        if_neg fun hvalid => Bool.noConfusion (hsnapshot.symm.trans hvalid.1)
      rw [List.filter_cons_of_pos (by simpa using hself.symm), List.filter_nil,
        List.length_singleton, Nat.mul_add_one, hafter, hbefore]
      omega
    · have hsame : t.storage.fundingSnapshots token = s.state.storage.fundingSnapshots token := by
        rw [hsnapshots, update_of_ne hself]
      have hle : pending P token after ≤ _ := pending_congr hsame rfl
      rw [List.filter_cons_of_neg (by simpa using fun hsame => hself hsame.symm), List.filter_nil,
        List.length_nil, Nat.add_zero]
      omega

/-- Of a token, what was paid back and what may still be grows no faster than the balance. -/
theorem paid_le_step (token : ContractAddress) (s : Sys X) (a : Action X) (h : Funded P s) :
    chatRecoveryAmount.val * paidBack token (step P s a).receipts + pending P token (step P s a) ≤
      chatRecoveryAmount.val * paidBack token s.receipts + pending P token s +
        (held P token (step P s a) - held P token s) := by
  cases a with
  | begin hash =>
    unfold step
    dsimp only
    split
    · omega
    · rename_i hfresh
      have hnone : pending P token { s with transactionHash := hash, hashes := hash :: s.hashes } =
          0 := by
        refine if_neg fun hvalid => ?_
        obtain ⟨hprepared, hhash⟩ := hvalid
        have hknown := h.known token hprepared
        rw [show (s.state.storage.fundingSnapshots token).transactionHash = hash from hhash]
          at hknown
        exact hfresh hknown
      rw [hnone]
      dsimp only
      omega
  | environment world =>
    unfold step pending
    dsimp only
    split
    · omega
    · omega
  | call caller call =>
    rcases step_call s caller call with heq | ⟨ds, t, houtcome, heq⟩
    · rw [heq]
      omega
    · rw [heq]
      exact paid_le_call token (funding_of_outcome houtcome)

/-! ## The law -/

theorem funded_run (pool : ContractAddress) (world : X) (hash : Felt) (as : List (Action X)) :
    Funded P (run (step P) (deployed pool world hash) as) := by
  refine run_invariant (I := Funded P) funded_step as ⟨List.mem_singleton_self _, ?_, ?_, ?_⟩
  · exact fun _ hprepared => Bool.noConfusion hprepared
  · exact fun _ hprepared => Bool.noConfusion hprepared
  · exact fun before r since heq => absurd heq (by simp [deployed])

/-- Over every run: the count is the number of the messages that were posted, which have the indices
below it in their order; every replay slot is used at most once; every deposit is matched with what
came in since a snapshot taken in the same transaction, and two deposits of a token have snapshots of
their own; and what is paid back of a token is no more than its balance rose. -/
theorem chat_lawful (P : Platform X) (pool : ContractAddress) (world : X) (hash : Felt)
    (as : List (Action X)) :
    let s := run (step P) (deployed pool world hash) as
    (s.state.storage.messageCount.val = (posted s.receipts).length ∧
        s.state.events.map Event.message = posted s.receipts ∧
        (s.state.events.map fun e => e.index.val) = List.range (posted s.receipts).length) ∧
      (usedSlots s.receipts).Nodup ∧ Matched P s.receipts ∧
      (∀ before r between r' after, s.receipts = before ++ r :: (between ++ r' :: after) →
        ∀ d ∈ r.deposits, ∀ d' ∈ r'.deposits, d'.token = d.token →
          ∃ q ∈ between, q.call = .prepareFunding d.token ∧
            q.transactionHash = r'.transactionHash) ∧
      ∀ token, chatRecoveryAmount.val * paidBack token s.receipts ≤
        rise (step P) (held P token) (deployed pool world hash) as := by
  intro s
  have hnumbered : Numbered s := run_invariant (I := Numbered) numbered_step as ⟨rfl, rfl⟩
  have hused : UsedOnce s := by
    refine run_invariant (I := UsedOnce) usedOnce_step as ⟨List.nodup_nil, fun slot => ?_⟩
    exact ⟨fun hmem => (List.not_mem_nil hmem).elim, fun hfalse => Bool.noConfusion hfalse⟩
  have hcount : s.state.storage.messageCount.val = (posted s.receipts).length := by
    have hlength := congrArg List.length hnumbered.indices
    rw [List.length_map, List.length_range] at hlength
    rw [← hlength, ← hnumbered.messages, List.length_map]
  have hmatched := (funded_run (P := P) pool world hash as).matched
  refine ⟨⟨hcount, hnumbered.messages, ?_⟩, hused.distinct, hmatched, ?_, fun token => ?_⟩
  · rw [← hcount]
    exact hnumbered.indices
  · exact fun _ _ _ _ _ heq d hd d' hd' htoken =>
      hmatched.snapshot_between heq hd hd' htoken
  · have hrise := run_le_rise (I := Funded P) (f := held P token) (g := fun s =>
      chatRecoveryAmount.val * paidBack token s.receipts + pending P token s)
      funded_step (paid_le_step token) as (funded_run pool world hash [])
    have hstart : chatRecoveryAmount.val * paidBack token (deployed pool world hash).receipts +
        pending P token (deployed pool world hash) = 0 := by
      unfold pending
      rw [if_neg fun hvalid => Bool.noConfusion hvalid.1]
      rfl
    have hle : chatRecoveryAmount.val * paidBack token s.receipts + pending P token s ≤ _ := hrise
    dsimp only [run, List.foldl_nil] at hle
    rw [hstart, Nat.zero_add] at hle
    exact (Nat.le_add_right _ _).trans hle

/-- A world of one balance, which is that of the chat. -/
def oneBalance : Platform U256 where
  contractAddress := 1
  poseidonHashSpan _ := 0
  balanceOf _ _ x := some x
  approve _ _ _ x := some (true, x)

def emptyMessage : Message := ⟨(0, 0), 0, (0, 0), [], 0⟩

/-- The funding of a message is prepared, seven units come in, and the message pays them back; the
next message of the transaction pays nothing. -/
def paidActions : List (Action U256) :=
  [.call 5 (.prepareFunding 3), .environment 7, .call 9 (.privacyInvoke 3 1 emptyMessage),
    .call 9 (.privacyInvoke 3 2 emptyMessage)]

theorem chat_lawful_paid :
    paidBack 3 (run (step oneBalance) (deployed 9 0 1) paidActions).receipts = 1 ∧
      (posted (run (step oneBalance) (deployed 9 0 1) paidActions).receipts).length = 2 ∧
      chatRecoveryAmount.val * 1 ≤
        rise (step oneBalance) (held oneBalance 3) (deployed 9 0 1) paidActions := by
  have hlawful := (chat_lawful oneBalance 9 0 1 paidActions).2.2.2.2 3
  have hpaid : paidBack 3 (run (step oneBalance) (deployed 9 0 1) paidActions).receipts = 1 := by
    decide +kernel
  rw [hpaid] at hlawful
  exact ⟨hpaid, by decide +kernel, hlawful⟩

end App20.Chat
