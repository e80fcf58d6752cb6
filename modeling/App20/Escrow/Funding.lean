import App20.Escrow.Holdings
import App20.Lib.Purse

/-!
# The custody of the escrow

One token of the escrow is a `Purse`: its balance, what the books owe in it, what the pool may
fetch, the prepared snapshot and the funding accepted so far. Every call to the escrow is one
action on the purse of every token, and the steps of others are collections.

The escrow issues and destroys units of its own tickets between a snapshot and its use, so for
these the balance covers the books and the allowance only as long as the steps are clear.
-/

namespace App20.Escrow

open App20.Lib App20.Lib.Exec App20.Starknet
open Function (update update_self update_of_ne)

/-! ## Purses -/

def Event.accepts (token : ContractAddress) : Event → Nat
  | .dealFunded _ legAToken legAAmount _ _ _ _ => if legAToken = token then legAAmount.val else 0
  | .dealFilled _ _ _ legBToken legBAmount => if legBToken = token then legBAmount.val else 0
  | .lockCreated _ _ _ tokenB _ maxB _ _ => if tokenB = token then maxB.val else 0
  | .dealTaken _ tokenA totalA _ _ _ _ => if tokenA = token then totalA.val else 0
  | _ => 0

def funded (token : ContractAddress) (events : List Event) : Nat :=
  (events.map (Event.accepts token)).sum

/-- The balance of a snapshot that is not used up. -/
def FundingSnapshot.unused (f : FundingSnapshot) : Option Nat :=
  if f.prepared then some f.balance.val else none

def purse (C : Chain) (pool : ContractAddress) (s : State (World Erc20)) (token : ContractAddress) :
    Purse where
  held := s.world.balance token C.escrow
  owed := (s.storage.accounted token).val
  pending := s.world.allowance token C.escrow pool
  snapshot := (s.storage.fundingSnapshots token).unused
  accepted := funded token s.events

def Storage.IsTicket (s : Storage) (token : ContractAddress) : Prop :=
  ∃ id, (s.tickets id ≠ 0 ∧ token = s.tickets id) ∨
    (s.lockTickets id ≠ 0 ∧ token = s.lockTickets id)

section Kept

variable {X : Type} {P : Platform X} {s t : Storage} {id salt : Felt} {ticket : ContractAddress}
  {w w' : X}

theorem TicketEnsured.kept (h : TicketEnsured P s salt ticket w w') (hid : s.tickets id ≠ 0) :
    (s.setTicket salt ticket).tickets id = s.tickets id := by
  change update s.tickets salt ticket id = s.tickets id
  by_cases heq : id = salt
  · subst heq
    obtain ⟨-, ⟨-, rfl, -⟩ | ⟨hzero, -⟩⟩ := h
    · rw [update_self]
    · exact absurd hzero hid
  · rw [update_of_ne heq]

theorem LockTicketEnsured.kept (h : LockTicketEnsured P s salt ticket w w')
    (hid : s.lockTickets id ≠ 0) :
    (s.setLockTicket salt ticket).lockTickets id = s.lockTickets id := by
  change update s.lockTickets salt ticket id = s.lockTickets id
  by_cases heq : id = salt
  · subst heq
    obtain ⟨-, ⟨-, rfl, -⟩ | ⟨hzero, -⟩⟩ := h
    · rw [update_self]
    · exact absurd hzero hid
  · rw [update_of_ne heq]

theorem isTicket_of_kept (htickets : ∀ id, s.tickets id ≠ 0 → t.tickets id = s.tickets id)
    (hlockTickets : ∀ id, s.lockTickets id ≠ 0 → t.lockTickets id = s.lockTickets id)
    {token : ContractAddress} (h : s.IsTicket token) : t.IsTicket token := by
  obtain ⟨id, ⟨hid, rfl⟩ | ⟨hid, rfl⟩⟩ := h
  · have hkept := htickets id hid
    exact ⟨id, Or.inl ⟨by rw [hkept]; exact hid, hkept.symm⟩⟩
  · have hkept := hlockTickets id hid
    exact ⟨id, Or.inr ⟨by rw [hkept]; exact hid, hkept.symm⟩⟩

/-- A ticket of the escrow stays one. -/
theorem Executes.isTicket {s t : State X} {cx : CallContext} {c : Call}
    {out : List OpenNoteDeposit} (hcall : Executes P cx s t c out) {token : ContractAddress}
    (h : s.storage.IsTicket token) : t.storage.IsTicket token := by
  refine isTicket_of_kept ?_ ?_ h
  · intro id hid
    cases hcall with
    | ensures hensured hstorage =>
      rw [hstorage]
      exact hensured.kept hid
    | funds _ run =>
      rw [run.storage_eq]
      exact run.ensured.kept hid
    | prepares _ _ _ hstorage | ensuresLock _ hstorage => rw [hstorage]; rfl
    | fills _ run | claims _ run | timesOut _ run | locks _ run | takes _ run | settles _ run
    | releases _ run => rw [run.storage_eq]; rfl
  · intro id hid
    cases hcall with
    | ensuresLock hensured hstorage =>
      rw [hstorage]
      exact hensured.kept hid
    | locks _ run =>
      rw [run.storage_eq]
      exact run.ensured.kept hid
    | prepares _ _ _ hstorage | ensures _ hstorage => rw [hstorage]; rfl
    | funds _ run | fills _ run | claims _ run | timesOut _ run | takes _ run | settles _ run
    | releases _ run => rw [run.storage_eq]; rfl

end Kept

theorem funded_append {token : ContractAddress} {events more : List Event} :
    funded token (events ++ more) = funded token events + funded token more := by
  unfold funded
  rw [List.map_append, List.sum_append]

theorem funded_singleton {token : ContractAddress} {e : Event} :
    funded token [e] = e.accepts token := by
  unfold funded
  rw [List.map_singleton, List.sum_singleton]

theorem unused_prepared {f : FundingSnapshot} (h : f.prepared = true) :
    f.unused = some f.balance.val := by
  unfold FundingSnapshot.unused
  rw [if_pos h]

theorem unused_consumed (s : Storage) (token token' : ContractAddress) :
    ((s.consumeSnapshot token).fundingSnapshots token').unused =
      if token' = token then none else (s.fundingSnapshots token').unused := by
  change (update s.fundingSnapshots token _ token').unused = _
  by_cases heq : token' = token
  · rw [if_pos heq, heq, update_self]
    rfl
  · rw [if_neg heq, update_of_ne heq]

/-! ## Calls into the world -/

section World

variable {C : Chain} {w w' : World Erc20} {token : ContractAddress}

theorem consumed_eq {cx : CallContext} {s : Storage} {expected : U256}
    (h : Consumed C.erc20.platform cx s token expected w w') :
    w' = w ∧ (s.fundingSnapshots token).unused = some (s.fundingSnapshots token).balance.val ∧
      w.balance token C.escrow = (s.fundingSnapshots token).balance.val + expected.val := by
  obtain ⟨balance, hread, -, hval⟩ := h.received
  obtain ⟨hw, hbalance, -⟩ := World.balanceOf_eq hread
  exact ⟨hw, unused_prepared h.prepared, hbalance.symm.trans hval⟩

theorem paid_eq {accounted after : U256} {amount : U128}
    (h : Paid C.erc20.platform accounted token amount after w w') :
    w' = w ∧ accounted.val ≤ w.balance token C.escrow ∧ accounted.val = after.val + amount.val := by
  obtain ⟨balance, hread, hle, hafter⟩ := h
  obtain ⟨hw, hbalance, -⟩ := World.balanceOf_eq hread
  exact ⟨hw, hle.trans_eq hbalance, hafter⟩

/-- The burn of the unit that the escrow holds beyond the accounted ones. -/
theorem burned_eq {D : Deployment C.erc20} {kind : TicketKind} {id : Felt} {minted : Bool}
    {supply : Nat} {accounted : U256} (hown : OwnTicket D w kind id token minted supply)
    (h : Burned C.erc20.platform accounted token w w') :
    w.balance token C.escrow = w'.balance token C.escrow + 1 ∧
    w'.balance token C.escrow = accounted.val ∧
    (∀ token', token' ≠ token → w'.balance token' C.escrow = w.balance token' C.escrow) ∧
    (∀ token' spender, w'.allowance token' C.escrow spender =
      w.allowance token' C.escrow spender) := by
  obtain ⟨balance, w1, w2, hbefore, -, hburn, hafter⟩ := h
  obtain ⟨rfl, -⟩ := World.balanceOf_eq hbefore
  obtain ⟨rfl, haccounted, -⟩ := World.balanceOf_eq hafter
  obtain ⟨hheld, hbalance, hallowance⟩ := hown.burn_balance hburn
  exact ⟨hheld, haccounted.symm, fun _ hne => hbalance _ _ fun hand => hne hand.1,
    fun _ _ => hallowance _ _ _⟩

end World

/-! ## What a call does to the purses -/

/-- One action on the purse of a token, clear exactly under the condition. Only tickets of the
escrow are issued and burned. -/
def ActsAt (C : Chain) (pool : ContractAddress) (s t : State (World Erc20))
    (token : ContractAddress) (condition : Prop) : Prop :=
  ∃ a, (purse C pool s token).Move (purse C pool t token) a ∧
    ((purse C pool s token).Clear a ↔ condition) ∧ (¬ t.storage.IsTicket token → a.Plain)

variable {condition : Prop} {source : ContractAddress} {amount : Nat}

section Acts

variable {C : Chain} {pool token : ContractAddress} {s t : State (World Erc20)}

/-- A call that leaves the purse of the token alone. -/
theorem actsAt_idle (hcondition : condition)
    (hheld : t.world.balance token C.escrow = s.world.balance token C.escrow)
    (hallowance : t.world.allowance token C.escrow pool = s.world.allowance token C.escrow pool)
    (howed : (t.storage.accounted token).val = (s.storage.accounted token).val)
    (hsnapshot : (t.storage.fundingSnapshots token).unused =
      (s.storage.fundingSnapshots token).unused)
    (haccepted : funded token t.events = funded token s.events) :
    ActsAt C pool s t token condition :=
  ⟨.collect, Purse.Move.idle hheld howed hallowance hsnapshot haccepted,
    iff_of_true trivial hcondition, fun _ => trivial⟩

/-- A call that leaves all purses alone. -/
theorem actsAt_unmoved (hcondition : condition) (hworld : World.Unmoved s.world t.world)
    (haccounted : t.storage.accounted = s.storage.accounted)
    (hsnapshots : t.storage.fundingSnapshots = s.storage.fundingSnapshots)
    (hevents : t.events = s.events) : ActsAt C pool s t token condition :=
  actsAt_idle hcondition (hworld.balance_eq _ _) (hworld.allowance_eq _ _ _)
    (by rw [haccounted]) (by rw [hsnapshots]) (by rw [hevents])

theorem actsAt_prepare {prepared : ContractAddress} {hash : Felt} {balance : U256}
    (hcondition : condition) (hworld : t.world = s.world)
    (hbalance : balance.val = s.world.balance prepared C.escrow)
    (hstorage : t.storage = s.storage.setSnapshot prepared ⟨hash, balance, true⟩)
    (hevents : t.events = s.events) : ActsAt C pool s t token condition := by
  have hheld : t.world.balance token C.escrow = s.world.balance token C.escrow := by rw [hworld]
  have hallowance : t.world.allowance token C.escrow pool =
      s.world.allowance token C.escrow pool := by rw [hworld]
  have howed : (t.storage.accounted token).val = (s.storage.accounted token).val := by
    rw [hstorage]
    rfl
  have haccepted : funded token t.events = funded token s.events := by rw [hevents]
  have hsnapshot : t.storage.fundingSnapshots token =
      update s.storage.fundingSnapshots prepared ⟨hash, balance, true⟩ token := by
    rw [hstorage]
    rfl
  by_cases htoken : token = prepared
  · subst htoken
    rw [update_self] at hsnapshot
    have hsnapshot' : (t.storage.fundingSnapshots token).unused =
        some (s.world.balance token C.escrow) :=
      (congrArg FundingSnapshot.unused hsnapshot).trans (congrArg some hbalance)
    exact ⟨.prepare, Purse.Move.prepare hheld howed hallowance hsnapshot' haccepted,
      iff_of_true trivial hcondition, fun _ => trivial⟩
  · rw [update_of_ne htoken] at hsnapshot
    exact actsAt_idle hcondition hheld hallowance howed
      (congrArg FundingSnapshot.unused hsnapshot) haccepted

/-- The use of a snapshot of `source` that finds `amount` more than it. -/
structure Accepts (C : Chain) (s t : State (World Erc20)) (source : ContractAddress)
    (amount : Nat) : Prop where
  prepared : ∃ before, (s.storage.fundingSnapshots source).unused = some before ∧
    s.world.balance source C.escrow = before + amount
  snapshots_eq : ∀ token, (t.storage.fundingSnapshots token).unused =
    if token = source then none else (s.storage.fundingSnapshots token).unused
  accepted_eq : ∀ token, funded token t.events =
    funded token s.events + if source = token then amount else 0

/-- The accepted token itself, when the call does nothing else to it. -/
theorem Accepts.actsAt_source (h : Accepts C s t source amount)
    (hheld : t.world.balance source C.escrow = s.world.balance source C.escrow)
    (hallowance : t.world.allowance source C.escrow pool = s.world.allowance source C.escrow pool)
    (howed : (t.storage.accounted source).val = (s.storage.accounted source).val + amount) :
    ActsAt C pool s t source (source = source → (purse C pool s source).Sealed) := by
  obtain ⟨before, hprepared, hgrown⟩ := h.prepared
  have hsnapshot := h.snapshots_eq source
  have haccepted := h.accepted_eq source
  rw [if_pos rfl] at hsnapshot haccepted
  exact ⟨.accept amount,
    Purse.Move.accept hprepared hgrown hheld howed hallowance hsnapshot haccepted,
    ⟨fun hclear _ => hclear, fun hsealed => hsealed rfl⟩, fun _ => trivial⟩

theorem actsAt_funding {ticket : ContractAddress} (units : Nat) (h : Accepts C s t source amount)
    (hne : source ≠ ticket) (hticket : t.storage.IsTicket ticket)
    (hheld : ∀ token, t.world.balance token C.escrow =
      s.world.balance token C.escrow + if ticket = token then units else 0)
    (hallowance : ∀ token, t.world.allowance token C.escrow pool =
      if ticket = token then units else s.world.allowance token C.escrow pool)
    (howed : ∀ token, (t.storage.accounted token).val =
      (s.storage.accounted token).val + if source = token then amount else 0)
    (token : ContractAddress) :
    ActsAt C pool s t token (source = token → (purse C pool s token).Sealed) := by
  have hheld' := hheld token
  have hallowance' := hallowance token
  have howed' := howed token
  by_cases hsource : source = token
  · subst hsource
    rw [if_neg (Ne.symm hne), Nat.add_zero] at hheld'
    rw [if_neg (Ne.symm hne)] at hallowance'
    rw [if_pos rfl] at howed'
    exact h.actsAt_source hheld' hallowance' howed'
  · have hsnapshot := h.snapshots_eq token
    have haccepted := h.accepted_eq token
    rw [if_neg hsource, Nat.add_zero] at howed' haccepted
    rw [if_neg (Ne.symm hsource)] at hsnapshot
    by_cases hissued : ticket = token
    · rw [if_pos hissued] at hheld' hallowance'
      exact ⟨.issue units, Purse.Move.issue hheld' howed' hallowance' hsnapshot haccepted,
        iff_of_true trivial fun heq => absurd heq hsource,
        fun hplain => absurd (hissued ▸ hticket) hplain⟩
    · rw [if_neg hissued] at hheld' hallowance'
      exact actsAt_idle (fun heq => absurd heq hsource) hheld'
        hallowance' howed' hsnapshot haccepted

/-- Funding against a payment in another token. -/
theorem actsAt_exchange {target : ContractAddress} (paid : Nat) (h : Accepts C s t source amount)
    (hne : source ≠ target)
    (hcovered : (s.storage.accounted target).val ≤ s.world.balance target C.escrow)
    (hheld : ∀ token, t.world.balance token C.escrow = s.world.balance token C.escrow)
    (hallowance : ∀ token, t.world.allowance token C.escrow pool =
      if target = token then paid else s.world.allowance token C.escrow pool)
    (howed : ∀ token, (t.storage.accounted token).val + (if target = token then paid else 0) =
      (s.storage.accounted token).val + if source = token then amount else 0)
    (token : ContractAddress) :
    ActsAt C pool s t token (source = token → (purse C pool s token).Sealed) := by
  have hallowance' := hallowance token
  have howed' := howed token
  by_cases hsource : source = token
  · subst hsource
    rw [if_neg (Ne.symm hne)] at hallowance'
    rw [if_neg (Ne.symm hne), if_pos rfl, Nat.add_zero] at howed'
    exact h.actsAt_source (hheld _) hallowance' howed'
  · have hsnapshot := h.snapshots_eq token
    have haccepted := h.accepted_eq token
    rw [if_neg hsource, Nat.add_zero] at howed' haccepted
    rw [if_neg (Ne.symm hsource)] at hsnapshot
    by_cases hpaid : target = token
    · subst hpaid
      rw [if_pos rfl] at howed' hallowance'
      exact ⟨.promise paid, Purse.Move.promise hcovered (hheld _) howed'.symm hallowance'
        hsnapshot haccepted, iff_of_true trivial fun heq => absurd heq hsource, fun _ => trivial⟩
    · rw [if_neg hpaid, Nat.add_zero] at howed'
      rw [if_neg hpaid] at hallowance'
      exact actsAt_idle (fun heq => absurd heq hsource) (hheld _)
        hallowance' howed' hsnapshot haccepted

/-- What a payout does besides paying: one unit of the ticket is burned. -/
structure Redeems (C : Chain) (s t : State (World Erc20)) (ticket : ContractAddress) : Prop where
  isTicket : t.storage.IsTicket ticket
  burned : s.world.balance ticket C.escrow = t.world.balance ticket C.escrow + 1
  exact : t.world.balance ticket C.escrow = (s.storage.accounted ticket).val
  held_eq : ∀ token, token ≠ ticket →
    t.world.balance token C.escrow = s.world.balance token C.escrow
  snapshots_eq : t.storage.fundingSnapshots = s.storage.fundingSnapshots
  accepted_eq : ∀ token, funded token t.events = funded token s.events

theorem actsAt_payout {ticket : ContractAddress} (paid : ContractAddress → Prop) (amount : Nat)
    (h : Redeems C s t ticket) (hcovered : ∀ token, paid token → token ≠ ticket →
      (s.storage.accounted token).val ≤ s.world.balance token C.escrow)
    (hpaid : ∀ token, paid token → t.world.allowance token C.escrow pool = amount ∧
      (s.storage.accounted token).val = (t.storage.accounted token).val + amount)
    (hkept : ∀ token, ¬ paid token →
      t.world.allowance token C.escrow pool = s.world.allowance token C.escrow pool ∧
      (t.storage.accounted token).val = (s.storage.accounted token).val) (token : ContractAddress) :
    ActsAt C pool s t token (ticket = token → ¬ paid token →
      s.world.allowance token C.escrow pool = 0) := by
  have hsnapshot : (t.storage.fundingSnapshots token).unused =
      (s.storage.fundingSnapshots token).unused := by rw [h.snapshots_eq]
  have haccepted := h.accepted_eq token
  by_cases hpays : paid token
  · obtain ⟨hallowance, howed⟩ := hpaid token hpays
    by_cases hticket : ticket = token
    · subst hticket
      exact ⟨.redeem amount, Purse.Move.redeem h.burned h.exact howed hallowance hsnapshot
        haccepted, iff_of_true trivial fun _ hnot => absurd hpays hnot,
        fun hplain => absurd h.isTicket hplain⟩
    · exact ⟨.promise amount, Purse.Move.promise (hcovered token hpays (Ne.symm hticket))
        (h.held_eq _ (Ne.symm hticket)) howed hallowance hsnapshot haccepted,
        iff_of_true trivial fun heq => absurd heq hticket, fun _ => trivial⟩
  · obtain ⟨hallowance, howed⟩ := hkept token hpays
    by_cases hticket : ticket = token
    · subst hticket
      exact ⟨.burn, Purse.Move.burn h.burned (h.exact.trans howed.symm) howed hallowance
        hsnapshot haccepted, ⟨fun hclear _ _ => hclear, fun hzero => hzero rfl hpays⟩,
        fun hplain => absurd h.isTicket hplain⟩
    · exact actsAt_idle (fun heq => absurd heq hticket)
        (h.held_eq _ (Ne.symm hticket)) hallowance howed hsnapshot haccepted

end Acts

/-! ## What the calls of the escrow do to the world -/

section Calls

variable {C : Chain} {D : Deployment C.erc20} {w w' : World Erc20} {s : Storage}
  {kind : TicketKind} {id : Felt} {ticket token pool : ContractAddress}

theorem deploy_unmoved {classHash salt id : Felt} {owner pool address : ContractAddress}
    (h : C.erc20.deploy classHash salt [into owner, into pool, id] w = some (address, w')) :
    World.Unmoved w w' := by
  obtain ⟨kind, -, hdeploy⟩ := deploy_eq h
  exact deployTicket_unmoved hdeploy

theorem ensured_unmoved (h : TicketEnsured C.erc20.platform s id ticket w w') :
    World.Unmoved w w' := by
  obtain ⟨-, ⟨-, -, rfl⟩ | ⟨-, hdeploy⟩⟩ := h
  · exact World.Unmoved.refl _
  · exact deploy_unmoved hdeploy

theorem ensuredLock_unmoved (h : LockTicketEnsured C.erc20.platform s id ticket w w') :
    World.Unmoved w w' := by
  obtain ⟨-, ⟨-, -, rfl⟩ | ⟨-, hdeploy⟩⟩ := h
  · exact World.Unmoved.refl _
  · exact deploy_unmoved hdeploy

theorem approved_eq {amount : U256}
    (h : C.erc20.platform.approve token pool amount w = some (true, w')) :
    (∀ token', w'.balance token' C.escrow = w.balance token' C.escrow) ∧
    (∀ token' spender, w'.allowance token' C.escrow spender =
      if token = token' ∧ spender = pool then amount.val
      else w.allowance token' C.escrow spender) := by
  obtain ⟨hbalance, hallowance⟩ := World.approve_eq h
  refine ⟨fun token' => hbalance _ _, fun token' spender => ?_⟩
  rw [hallowance]
  by_cases htoken : token' = token <;> by_cases hspender : spender = pool
  · rw [if_pos ⟨htoken, rfl, hspender⟩, if_pos ⟨htoken.symm, hspender⟩]
  · rw [if_neg fun hand => hspender hand.2.2, if_neg fun hand => hspender hand.2]
  · rw [if_neg fun hand => htoken hand.1, if_neg fun hand => htoken hand.1.symm]
  · rw [if_neg fun hand => htoken hand.1, if_neg fun hand => hspender hand.2]

theorem issued_eq {w1 : World Erc20} (hsound : ∀ a k t, w a = some (.ticket k t) → t.Sound k)
    (hown : OwnTicket D w kind id ticket false 0) (hmint : C.erc20.platform.mint ticket w = some w1)
    (happrove : C.erc20.platform.approve ticket pool kind.units w1 = some (true, w')) :
    (∀ token, w'.balance token C.escrow =
      w.balance token C.escrow + if ticket = token then kind.units.val else 0) ∧
    (∀ token spender, w'.allowance token C.escrow spender =
      if ticket = token ∧ spender = pool then kind.units.val
      else w.allowance token C.escrow spender) := by
  obtain ⟨hbalance, hallowance⟩ := hown.mint_balance hmint
  obtain ⟨hbalance', hallowance'⟩ := approved_eq happrove
  refine ⟨fun token => ?_, fun token spender => ?_⟩
  · rw [hbalance', hbalance]
    by_cases htoken : ticket = token
    · subst htoken
      rw [if_pos ⟨rfl, rfl⟩, if_pos rfl, hown.balance_eq_zero hsound, Nat.zero_add]
    · rw [if_neg fun hand => htoken hand.1.symm, if_neg htoken, Nat.add_zero]
  · rw [hallowance', hallowance]

/-- Whatever is found to have been paid in is not the ticket that is not minted yet. -/
theorem source_ne_ticket {before : Nat} (hsound : ∀ a k t, w a = some (.ticket k t) → t.Sound k)
    (hown : OwnTicket D w kind id ticket false 0)
    (hgrown : w.balance token C.escrow = before + amount) (hamount : 0 < amount) :
    token ≠ ticket := by
  rintro rfl
  rw [hown.balance_eq_zero hsound] at hgrown
  omega

end Calls

end App20.Escrow
