import App20.Escrow.Funding

/-!
# The balance covers the books

Every call to the escrow is one action on the purse of each token (`acts_call`), so a step
keeps a covered token covered exactly when it is clear (`ClearAt`). A run keeps a token covered
exactly when all its steps are clear for it, and every run keeps a token covered that is not a
ticket of the escrow itself.
-/

namespace App20.Escrow

open App20.Lib App20.Lib.Exec App20.Starknet

variable {C : Chain} {D : Deployment C.erc20}

/-- The call leaves the token covered if it was: funding is measured against a snapshot that
covers all claims, and a ticket is burned only when the pool may fetch none of its units. -/
def ClearAt (C : Chain) (pool : ContractAddress) (s : State (World Erc20))
    (token : ContractAddress) : Call → Prop
  | .privacyInvoke (.fund params) _ _ _ => params.token = token → (purse C pool s token).Sealed
  | .privacyInvoke (.fill _) dealId _ _ =>
    (s.storage.deals dealId).legBToken = token → (purse C pool s token).Sealed
  | .privacyInvoke (.lock params) _ _ _ => params.token = token → (purse C pool s token).Sealed
  | .privacyInvokeWithComputation _ (.take params) _ _ _ =>
    params.token = token → (purse C pool s token).Sealed
  | .privacyInvoke .claim dealId _ _ =>
    (s.storage.deals dealId).ticket = token → ¬ (s.storage.deals dealId).legBToken = token →
      s.world.allowance token C.escrow pool = 0
  | .privacyInvoke .timeout dealId _ _ =>
    (s.storage.deals dealId).ticket = token → ¬ (s.storage.deals dealId).legAToken = token →
      s.world.allowance token C.escrow pool = 0
  | .privacyInvoke .settleProceeds lockId _ _ =>
    (s.storage.locks lockId).ticket = token →
      ¬ (0 < (s.storage.locks lockId).earnedA.val ∧ (s.storage.locks lockId).tokenA = token) →
      s.world.allowance token C.escrow pool = 0
  | .privacyInvoke .releaseCollateral lockId _ _ =>
    (s.storage.locks lockId).ticket = token →
      ¬ (0 < (s.storage.locks lockId).remainingB.val ∧ (s.storage.locks lockId).tokenB = token) →
      s.world.allowance token C.escrow pool = 0
  | _ => True

/-! ## Single calls -/

variable {token : ContractAddress}

section Calls

variable {s t : State (World Erc20)} {cx : CallContext} {out : List OpenNoteDeposit}

variable {amount : U128} {w1 w2 : World Erc20} {e : Event} {dealId noteId : Felt}
  {ticket : ContractAddress} {after : U256}

/-- The use of a snapshot, seen from the state before the call. -/
theorem Consumed.accepts (more : List Event)
    (h : Consumed C.erc20.platform cx s.storage token (into amount) w1 w2)
    (hworld : w1.balance token C.escrow = s.world.balance token C.escrow)
    (hsnapshots : t.storage.fundingSnapshots = (s.storage.consumeSnapshot token).fundingSnapshots)
    (hevents : t.events = s.events ++ more ++ [e]) (hmore : ∀ token, funded token more = 0)
    (he : ∀ token', e.accepts token' = if token = token' then amount.val else 0) :
    Accepts C s t token amount.val := by
  obtain ⟨-, hprepared, hgrown⟩ := consumed_eq h
  refine ⟨⟨_, hprepared, ?_⟩, fun token' => ?_, fun token' => ?_⟩
  · rw [← hworld, hgrown, into_val]
  · rw [hsnapshots, unused_consumed]
  · rw [hevents, funded_append, funded_append, funded_singleton, hmore, he, Nat.add_zero]

theorem acts_funds {params : FundParams} {next : U256} {w3 : World Erc20}
    (h : TicketsSound D s.storage s.world)
    (run : Funds C.erc20.platform cx dealId noteId params D.pool s t out ticket next w1 w2 w3)
    (token : ContractAddress) :
    ActsAt C D.pool s t token (params.token = token → (purse C D.pool s token).Sealed) := by
  have hsound := (h.ensured run.ensured).1.sound
  have hown := h.ensured_own run.ensured run.empty
  have hunmoved := ensured_unmoved run.ensured
  obtain ⟨rfl, -, hgrown⟩ := consumed_eq run.consumed
  obtain ⟨hheld, hallowance⟩ := issued_eq hsound hown run.minted run.approved
  have hamount : 0 < params.amount.val := Nat.pos_of_ne_zero fun hzero =>
    run.amount_ne (Fin.ext hzero)
  refine actsAt_funding 1
    (run.consumed.accepts [] (hunmoved.balance_eq _ _) (by rw [run.storage_eq]; rfl)
      (by rw [run.events_eq, List.append_nil]) (fun _ => rfl) fun _ => rfl)
    (source_ne_ticket hsound hown hgrown hamount) ?_ (fun token' => ?_) (fun token' => ?_)
    (fun token' => ?_) token
  · refine ⟨dealId, Or.inl ?_⟩
    rw [run.storage_eq]
    change Function.update s.storage.tickets dealId ticket dealId ≠ 0 ∧
      ticket = Function.update s.storage.tickets dealId ticket dealId
    rw [Function.update_self]
    exact ⟨(h.ensured run.ensured).2, rfl⟩
  · rw [hheld, hunmoved.balance_eq]
    rfl
  · rw [hallowance, hunmoved.allowance_eq]
    simp only [and_true]
    rfl
  · rw [run.storage_eq]
    refine (update_val token').trans ?_
    split
    · next heq => rw [run.next_eq, heq]
    · rfl

theorem acts_locks {lockId : Felt} {params : LockParams} {next : U256} {w3 : World Erc20}
    (h : TicketsSound D s.storage s.world)
    (run : Locks C.erc20.platform cx lockId noteId params D.pool s t out ticket next w1 w2 w3)
    (token : ContractAddress) :
    ActsAt C D.pool s t token (params.token = token → (purse C D.pool s token).Sealed) := by
  have hsound := (h.ensuredLock run.ensured).1.sound
  have hown := h.ensuredLock_own run.ensured run.empty
  have hunmoved := ensuredLock_unmoved run.ensured
  obtain ⟨rfl, -, hgrown⟩ := consumed_eq run.consumed
  obtain ⟨hheld, hallowance⟩ := issued_eq hsound hown run.minted run.approved
  refine actsAt_funding 2
    (run.consumed.accepts [] (hunmoved.balance_eq _ _) (by rw [run.storage_eq]; rfl)
      (by rw [run.events_eq, List.append_nil]) (fun _ => rfl) fun _ => rfl)
    (source_ne_ticket hsound hown hgrown run.valid.maxB_pos) ?_ (fun token' => ?_)
    (fun token' => ?_) (fun token' => ?_) token
  · refine ⟨lockId, Or.inr ?_⟩
    rw [run.storage_eq]
    change Function.update s.storage.lockTickets lockId ticket lockId ≠ 0 ∧
      ticket = Function.update s.storage.lockTickets lockId ticket lockId
    rw [Function.update_self]
    exact ⟨(h.ensuredLock run.ensured).2, rfl⟩
  · rw [hheld, hunmoved.balance_eq]
    rfl
  · rw [hallowance, hunmoved.allowance_eq]
    simp only [and_true]
    rfl
  · rw [run.storage_eq]
    refine (update_val token').trans ?_
    split
    · next heq => rw [run.next_eq, heq]
    · rfl

theorem acts_fills {params : FillParams} {afterA afterB : U256} (h : Booked s.storage)
    (run : Fills C.erc20.platform cx dealId noteId params D.pool s t out afterA afterB w1 w2)
    (token : ContractAddress) :
    ActsAt C D.pool s t token
      ((s.storage.deals dealId).legBToken = token → (purse C D.pool s token).Sealed) := by
  have hlegs := (h.deals dealId).legs_ne run.funded
  obtain ⟨rfl, hcovered, hafterA⟩ := paid_eq run.paidA
  obtain ⟨rfl, -, -⟩ := consumed_eq run.consumed
  obtain ⟨hheld, hallowance⟩ := approved_eq run.approved
  refine actsAt_exchange (s.storage.deals dealId).legAAmount.val
    (run.consumed.accepts [] rfl (by rw [run.storage_eq]; rfl)
      (by rw [run.events_eq, List.append_nil]) (fun _ => rfl) fun _ => rfl)
    hlegs.symm hcovered hheld (fun token' => ?_) (fun token' => ?_) token
  · rw [hallowance]
    simp only [and_true]
    rfl
  · rw [run.storage_eq]
    exact exchanged_val hlegs.symm run.afterB_eq hafterA token'

theorem funded_applied {fills : List TakeFill} {locks locks' : Felt → Lock} {events : List Event}
    (h : Applied dealId fills locks locks' events) (token : ContractAddress) :
    funded token events = 0 := by
  induction h with
  | nil => rfl
  | cons taken rest ih =>
    rw [← List.singleton_append, funded_append, funded_singleton, ih]
    rfl

theorem acts_takes {params : TakeParams} {locks' : Felt → Lock} {events : List Event}
    {record : TakeRecord} {nextA nextB : U256}
    (run : Takes C.erc20.platform cx dealId noteId params D.pool s t out locks' events record
      nextA nextB w1 w2) (token : ContractAddress) :
    ActsAt C D.pool s t token (params.token = token → (purse C D.pool s token).Sealed) := by
  obtain ⟨rfl, -, -⟩ := consumed_eq run.consumed
  obtain ⟨rfl, hcovered, hafter⟩ := paid_eq run.paidB
  obtain ⟨hheld, hallowance⟩ := approved_eq run.approved
  refine actsAt_exchange record.totalB.val
    (run.consumed.accepts events rfl (by rw [run.storage_eq]; rfl) run.events_eq
      (funded_applied run.applied) fun _ => rfl)
    run.tokens_ne hcovered hheld (fun token' => ?_) (fun token' => ?_) token
  · rw [hallowance]
    simp only [and_true]
    rfl
  · rw [run.accounted_eq]
    exact exchanged_val run.tokens_ne run.nextA_eq hafter token'

/-- The burn at the start of a payout. -/
theorem Burned.redeems {kind : TicketKind} {id : Felt} {minted : Bool} {supply : Nat}
    (h : Burned C.erc20.platform (s.storage.accounted ticket) ticket s.world w1)
    (hown : OwnTicket D s.world kind id ticket minted supply) (hticket : t.storage.IsTicket ticket)
    (hheld : ∀ token, t.world.balance token C.escrow = w1.balance token C.escrow)
    (hsnapshots : t.storage.fundingSnapshots = s.storage.fundingSnapshots)
    (hevents : t.events = s.events ++ [e]) (he : ∀ token, e.accepts token = 0) :
    Redeems C s t ticket := by
  obtain ⟨hburned, hexact, hrest, -⟩ := burned_eq hown h
  refine ⟨hticket, ?_, ?_, fun token hne => ?_, hsnapshots, fun token => ?_⟩
  · rw [hheld, hburned]
  · rw [hheld, hexact]
  · rw [hheld, hrest token hne]
  · rw [hevents, funded_append, funded_singleton, he, Nat.add_zero]

/-- The payment of a payout, after the burn. -/
theorem acts_paid {kind : TicketKind} {id : Felt} {minted : Bool} {supply : Nat}
    {target : ContractAddress} (paid : ContractAddress → Prop)
    (hpaid_iff : ∀ token, paid token ↔ target = token)
    (hburned : Burned C.erc20.platform (s.storage.accounted ticket) ticket s.world w1)
    (hown : OwnTicket D s.world kind id ticket minted supply) (hticket : t.storage.IsTicket ticket)
    (hpaid : Paid C.erc20.platform (s.storage.accounted target) target amount after w1 w2)
    (happroved : C.erc20.platform.approve target D.pool (into amount) w2 = some (true, t.world))
    (haccounted : t.storage.accounted = Function.update s.storage.accounted target after)
    (hsnapshots : t.storage.fundingSnapshots = s.storage.fundingSnapshots)
    (hevents : t.events = s.events ++ [e]) (he : ∀ token, e.accepts token = 0)
    (token : ContractAddress) :
    ActsAt C D.pool s t token (ticket = token → ¬ paid token →
      s.world.allowance token C.escrow D.pool = 0) := by
  obtain ⟨-, -, hrest, hkept⟩ := burned_eq hown hburned
  obtain ⟨rfl, hcovered, hafter⟩ := paid_eq hpaid
  obtain ⟨hheld, hallowance⟩ := approved_eq happroved
  refine actsAt_payout paid amount.val
    (hburned.redeems hown hticket hheld hsnapshots hevents he) ?_ ?_ ?_ token
  · intro token' hpays hne
    obtain rfl := (hpaid_iff token').mp hpays
    exact hcovered.trans_eq (hrest _ hne)
  · intro token' hpays
    obtain rfl := (hpaid_iff token').mp hpays
    refine ⟨?_, ?_⟩
    · rw [hallowance, if_pos ⟨rfl, rfl⟩]
      rfl
    · rw [haccounted, Function.update_self, hafter]
  · intro token' hpays
    have hne : ¬ target = token' := fun heq => hpays ((hpaid_iff token').mpr heq)
    refine ⟨?_, ?_⟩
    · rw [hallowance, if_neg fun hand => hne hand.1, hkept]
    · rw [haccounted, Function.update_of_ne (Ne.symm hne)]

theorem acts_claims (h : TicketsSound D s.storage s.world)
    (run : Claims C.erc20.platform dealId noteId D.pool s t out after w1 w2)
    (token : ContractAddress) :
    ActsAt C D.pool s t token ((s.storage.deals dealId).ticket = token →
      ¬ (s.storage.deals dealId).legBToken = token →
      s.world.allowance token C.escrow D.pool = 0) := by
  have hstatus : (s.storage.deals dealId).status ≠ .empty := by
    rw [run.filled]
    simp
  have hown := h.deal_own _ hstatus
  refine acts_paid _ (fun _ => Iff.rfl) run.burned hown ?_ run.paid run.approved
    (by rw [run.storage_eq]; rfl) (by rw [run.storage_eq]; rfl) run.events_eq (fun _ => rfl) token
  rw [run.storage_eq]
  exact ⟨dealId, Or.inl (h.deal_ticket dealId hstatus)⟩

theorem acts_timesOut (h : TicketsSound D s.storage s.world)
    (run : TimesOut C.erc20.platform cx dealId noteId D.pool s t out after w1 w2)
    (token : ContractAddress) :
    ActsAt C D.pool s t token ((s.storage.deals dealId).ticket = token →
      ¬ (s.storage.deals dealId).legAToken = token →
      s.world.allowance token C.escrow D.pool = 0) := by
  have hstatus : (s.storage.deals dealId).status ≠ .empty := by
    rw [run.funded]
    simp
  have hown := h.deal_own _ hstatus
  refine acts_paid _ (fun _ => Iff.rfl) run.burned hown ?_ run.paid run.approved
    (by rw [run.storage_eq]; rfl) (by rw [run.storage_eq]; rfl) run.events_eq (fun _ => rfl) token
  rw [run.storage_eq]
  exact ⟨dealId, Or.inl (h.deal_ticket dealId hstatus)⟩

theorem acts_paidPositive {lockId : Felt} {target : ContractAddress}
    (h : TicketsSound D s.storage s.world) (hopened : (s.storage.locks lockId).status = .opened)
    (hburned : Burned C.erc20.platform (s.storage.accounted (s.storage.locks lockId).ticket)
      (s.storage.locks lockId).ticket s.world w1)
    (hpaid : PaidPositive C.erc20.platform (s.storage.accounted target) target D.pool amount after
      w1 t.world) (hlockTickets : t.storage.lockTickets = s.storage.lockTickets)
    (haccounted : t.storage.accounted = Function.update s.storage.accounted target after)
    (hsnapshots : t.storage.fundingSnapshots = s.storage.fundingSnapshots)
    (hevents : t.events = s.events ++ [e]) (he : ∀ token, e.accepts token = 0)
    (token : ContractAddress) :
    ActsAt C D.pool s t token ((s.storage.locks lockId).ticket = token →
      ¬ (0 < amount.val ∧ target = token) → s.world.allowance token C.escrow D.pool = 0) := by
  have hstatus : (s.storage.locks lockId).status ≠ .empty := by
    rw [hopened]
    simp
  have hown := h.lock_own _ hstatus
  have histicket : t.storage.IsTicket (s.storage.locks lockId).ticket :=
    ⟨lockId, Or.inr (by rw [hlockTickets]; exact h.lock_ticket lockId hstatus)⟩
  rcases hpaid with ⟨hpos, w2, hpaid, happroved⟩ | ⟨hzero, rfl, hworld⟩
  · exact acts_paid (fun token => 0 < amount.val ∧ target = token)
      (fun _ => and_iff_right hpos) hburned hown histicket hpaid happroved haccounted hsnapshots
      hevents he token
  · have hnot : ∀ token, ¬ (0 < amount.val ∧ target = token) := fun _ hand => by omega
    obtain ⟨-, -, -, hkept⟩ := burned_eq hown hburned
    rw [Function.update_eq_self] at haccounted
    refine actsAt_payout (fun token => 0 < amount.val ∧ target = token) 0
      (hburned.redeems hown histicket (fun _ => by rw [hworld]) hsnapshots hevents he)
      (fun token' hand => absurd hand (hnot token')) (fun token' hand => absurd hand (hnot token'))
      (fun token' _ => ⟨?_, ?_⟩) token
    · rw [hworld, hkept]
    · rw [haccounted]

/-- Every call that returns is one action on the purse of each token. -/
theorem acts_call {c : Call} (hcall : Executes C.erc20.platform cx s t c out)
    (h : TicketsSound D s.storage s.world) (hbooked : Booked s.storage) (token : ContractAddress) :
    ActsAt C D.pool s t token (ClearAt C D.pool s token c) := by
  cases hcall with
  | prepares _ hread _ hstorage hevents =>
    obtain ⟨hworld, hbalance, -⟩ := World.balanceOf_eq hread
    exact actsAt_prepare trivial hworld hbalance hstorage hevents
  | ensures hensured hstorage hevents =>
    exact actsAt_unmoved trivial (ensured_unmoved hensured) (by rw [hstorage]; rfl)
      (by rw [hstorage]; rfl) hevents
  | ensuresLock hensured hstorage hevents =>
    exact actsAt_unmoved trivial (ensuredLock_unmoved hensured) (by rw [hstorage]; rfl)
      (by rw [hstorage]; rfl) hevents
  | funds _ run => exact acts_funds h (h.pool_eq ▸ run) token
  | fills _ run => exact acts_fills hbooked (h.pool_eq ▸ run) token
  | claims _ run => exact acts_claims h (h.pool_eq ▸ run) token
  | timesOut _ run => exact acts_timesOut h (h.pool_eq ▸ run) token
  | locks _ run => exact acts_locks h (h.pool_eq ▸ run) token
  | takes _ run => exact acts_takes (h.pool_eq ▸ run) token
  | settles _ run | releases _ run =>
    exact acts_paidPositive h run.opened run.burned (h.pool_eq ▸ run.paid)
      (by rw [run.storage_eq]; rfl) (by rw [run.storage_eq]; rfl) (by rw [run.storage_eq]; rfl)
      run.events_eq (fun _ => rfl) token

/-- Only the pool is allowed anything. -/
theorem closed_call {c : Call} (hcall : Executes C.erc20.platform cx s t c out)
    (h : TicketsSound D s.storage s.world) (hclosed : Closed C D.pool s.world) :
    Closed C D.pool t.world := by
  intro token spender hne
  rw [← hclosed token spender hne]
  have hne' : ∀ target, ¬ (target = token ∧ spender = s.storage.pool) := fun _ hand =>
    hne (hand.2.trans h.pool_eq)
  cases hcall with
  | prepares _ hread =>
    obtain ⟨hworld, -⟩ := World.balanceOf_eq hread
    rw [hworld]
  | ensures hensured => exact (ensured_unmoved hensured).allowance_eq _ _ _
  | ensuresLock hensured => exact (ensuredLock_unmoved hensured).allowance_eq _ _ _
  | funds _ run =>
    obtain ⟨rfl, -, -⟩ := consumed_eq run.consumed
    obtain ⟨-, hallowance⟩ := issued_eq (h.ensured run.ensured).1.sound
      (h.ensured_own run.ensured run.empty) run.minted run.approved
    rw [hallowance, if_neg (hne' _), (ensured_unmoved run.ensured).allowance_eq]
  | locks _ run =>
    obtain ⟨rfl, -, -⟩ := consumed_eq run.consumed
    obtain ⟨-, hallowance⟩ := issued_eq (h.ensuredLock run.ensured).1.sound
      (h.ensuredLock_own run.ensured run.empty) run.minted run.approved
    rw [hallowance, if_neg (hne' _), (ensuredLock_unmoved run.ensured).allowance_eq]
  | fills _ run =>
    obtain ⟨rfl, -, -⟩ := paid_eq run.paidA
    obtain ⟨rfl, -, -⟩ := consumed_eq run.consumed
    rw [(approved_eq run.approved).2, if_neg (hne' _)]
  | takes _ run =>
    obtain ⟨rfl, -, -⟩ := consumed_eq run.consumed
    obtain ⟨rfl, -, -⟩ := paid_eq run.paidB
    rw [(approved_eq run.approved).2, if_neg (hne' _)]
  | @claims dealId _ _ _ _ _ _ _ run =>
    have hown := h.deal_own _ (by rw [run.filled]; simp)
    obtain ⟨-, -, -, hkept⟩ := burned_eq hown run.burned
    obtain ⟨rfl, -, -⟩ := paid_eq run.paid
    rw [(approved_eq run.approved).2, if_neg (hne' _), hkept]
  | @timesOut dealId _ _ _ _ _ _ _ run =>
    have hown := h.deal_own _ (by rw [run.funded]; simp)
    obtain ⟨-, -, -, hkept⟩ := burned_eq hown run.burned
    obtain ⟨rfl, -, -⟩ := paid_eq run.paid
    rw [(approved_eq run.approved).2, if_neg (hne' _), hkept]
  | @settles lockId _ _ _ _ _ _ run | @releases lockId _ _ _ _ _ _ run =>
    have hown := h.lock_own _ (by rw [run.opened]; simp)
    obtain ⟨-, -, -, hkept⟩ := burned_eq hown run.burned
    rcases run.paid with ⟨-, w2, hpaid, happroved⟩ | ⟨-, -, hworld⟩
    · obtain ⟨rfl, -, -⟩ := paid_eq hpaid
      rw [(approved_eq happroved).2, if_neg (hne' _), hkept]
    · rw [hworld, hkept]

end Calls

/-! ## Steps -/

/-- What the states of a run satisfy whatever its steps are. -/
structure Steady (D : Deployment C.erc20) (s : Sys (World Erc20)) : Prop where
  sound : Sound s
  tickets : TicketsSound D s.state.storage s.state.world
  closed : Closed C D.pool s.state.world

/-- The balance covers what the books owe and what the pool may still fetch. -/
def Solvent (D : Deployment C.erc20) (token : ContractAddress) (s : Sys (World Erc20)) : Prop :=
  (s.state.storage.accounted token).val + s.state.world.allowance token C.escrow D.pool ≤
    s.state.world.balance token C.escrow

def Clears (D : Deployment C.erc20) (token : ContractAddress) (s : Sys (World Erc20)) :
    NetStep C.erc20 → Prop
  | .escrow caller transactionHash c =>
    netStep s (.escrow caller transactionHash c : NetStep C.erc20) = s ∨
      ClearAt C D.pool s.state token c
  | _ => True

theorem steady_step (s : Sys (World Erc20)) (a : NetStep C.erc20) (h : Steady D s) :
    Steady D (netStep s a) :=
  net_induction (I := Steady D)
    (fun _ _ htime h => ⟨⟨fun id => (h.sound.locks id).later htime, h.sound.booked⟩, h.tickets,
      h.closed⟩) (fun _ a h => ⟨⟨h.sound.locks, h.sound.booked⟩, h.tickets.interference a,
      (interference_interfered h.closed a).closed⟩)
    (fun _ _ _ _ _ _ hcall h => ⟨sound_call hcall h.sound, ticketsSound_call hcall h.tickets,
      closed_call hcall h.tickets h.closed⟩) [a] h

theorem acts_step {s : Sys (World Erc20)} (h : Steady D s) (a : NetStep C.erc20)
    (token : ContractAddress) :
    netStep s a = s ∨ ActsAt C D.pool s.state (netStep s a).state token (Clears D token s a) := by
  rcases netStep_cases s a with ⟨hother, hstate⟩ | ⟨caller, transactionHash, c, rfl, hcase⟩
  · obtain ⟨fetched, paid, hheld, hallowance⟩ := (interference_interfered h.closed a).moved token
    have hclears : Clears D token s a := by
      cases a with
      | escrow caller transactionHash c => exact absurd rfl (hother caller transactionHash c)
      | _ => trivial
    rw [hstate]
    exact Or.inr ⟨.collect, Purse.Move.collect hheld rfl hallowance rfl rfl,
      iff_of_true trivial hclears, fun _ => trivial⟩
  · rcases hcase with heq | ⟨out, t, hcall, heq⟩
    · exact Or.inl heq
    · obtain ⟨act, hmove, hclear, hplain⟩ := acts_call hcall h.tickets h.sound.booked token
      have hchanged : netStep s (.escrow caller transactionHash c : NetStep C.erc20) ≠ s := by
        rw [heq]
        intro hsame
        have hlength := congrArg (fun s => s.receipts.length) hsame
        simp at hlength
      refine Or.inr ⟨act, by rw [heq]; exact hmove, ?_, by rw [heq]; exact hplain⟩
      exact hclear.trans ⟨Or.inr, fun hc => hc.resolve_left hchanged⟩

theorem solvent_step (s : Sys (World Erc20)) (a : NetStep C.erc20) (h : Steady D s)
    (hs : Solvent D token s) : Solvent D token (netStep s a) ↔ Clears D token s a := by
  rcases acts_step h a token with heq | ⟨act, hmove, hclear, -⟩
  · refine iff_of_true (by rw [heq]; exact hs) ?_
    cases a with
    | escrow caller transactionHash c => exact Or.inl heq
    | _ => trivial
  · exact (hmove.covered_iff hs).trans hclear

/-- A token that is no ticket of the escrow is solvent, and so is its snapshot. -/
structure Outside (D : Deployment C.erc20) (token : ContractAddress) (s : Sys (World Erc20)) :
    Prop where
  steady : Steady D s
  sealed : ¬ s.state.storage.IsTicket token → (purse C D.pool s.state token).Covered ∧
    (purse C D.pool s.state token).Sealed

theorem isTicket_step (s : Sys (World Erc20)) (a : NetStep C.erc20)
    (h : s.state.storage.IsTicket token) : (netStep s a).state.storage.IsTicket token := by
  rcases netStep_cases s a with ⟨-, hstate⟩ | ⟨caller, transactionHash, c, rfl, hcase⟩
  · rw [hstate]
    exact h
  · rcases hcase with heq | ⟨out, t, hcall, heq⟩
    · rw [heq]
      exact h
    · rw [heq]
      exact hcall.isTicket h

theorem outside_step (s : Sys (World Erc20)) (a : NetStep C.erc20) (h : Outside D token s) :
    Outside D token (netStep s a) := by
  refine ⟨steady_step s a h.steady, fun hticket => ?_⟩
  obtain ⟨hcovered, hsealed⟩ := h.sealed fun hbefore => hticket (isTicket_step s a hbefore)
  rcases acts_step h.steady a token with heq | ⟨act, hmove, -, hplain⟩
  · rw [heq]
    exact ⟨hcovered, hsealed⟩
  · exact hmove.sealed (hplain hticket) hcovered hsealed

theorem accepted_step (s : Sys (World Erc20)) (a : NetStep C.erc20) (h : Steady D s) :
    (purse C D.pool (netStep s a).state token).accepted +
        (purse C D.pool (netStep s a).state token).gap ≤
      (purse C D.pool s.state token).accepted + (purse C D.pool s.state token).gap +
        ((netStep s a).state.world.balance token C.escrow -
          s.state.world.balance token C.escrow) := by
  rcases acts_step h a token with heq | ⟨act, hmove, -, -⟩
  · rw [heq]
    exact Nat.le_add_right _ _
  · exact hmove.accepted_le

/-! ## Runs -/

theorem steady_initial (D : Deployment C.erc20) (now : U64) :
    Steady D (Sys.initial D.pool D.ticketClassHash D.lockTicketClassHash (fun _ => none) now) where
  sound := D.sound now []
  tickets := ticketsSound_run D now []
  closed := fun _ _ _ => rfl

theorem solvent_iff_along (now : U64) (steps : List (NetStep C.erc20)) (token : ContractAddress) :
    (∀ before, before <+: steps → Solvent D token (D.reached now before)) ↔
      Along netStep (Clears D token) (D.reached now []) steps :=
  prefixes_iff_along steady_step (fun s a h hs => solvent_step s a h hs)
    (steady_initial D now) (le_refl _)

theorem solvent_of_along {now : U64} {steps : List (NetStep C.erc20)}
    (h : Along netStep (Clears D token) (D.reached now []) steps) :
    Solvent D token (D.reached now steps) :=
  (solvent_iff_along now steps token).mpr h steps (List.prefix_refl _)

theorem Solvent.accounted_le {s : Sys (World Erc20)} (h : Solvent D token s) :
    (s.state.storage.accounted token).val ≤ s.state.world.balance token C.escrow :=
  le_trans (Nat.le_add_right _ _) h

/-- In a run the balance of a token covers the books and the pending allowance in every state
exactly when every step is clear for the token. For a token that is no ticket of the escrow it
always does, and whatever the steps are, what is accepted as funding never exceeds what the
escrow has received. -/
theorem balance_covers (D : Deployment C.erc20) (now : U64) (steps : List (NetStep C.erc20))
    (token : ContractAddress) :
    let s := D.reached now steps
    ((∀ before, before <+: steps → Solvent D token (D.reached now before)) ↔
      Along netStep (Clears D token) (D.reached now []) steps) ∧
    (¬ s.state.storage.IsTicket token → Solvent D token s) ∧ funded token s.state.events ≤
      rise netStep (fun s => s.state.world.balance token C.escrow) (D.reached now []) steps := by
  intro s
  refine ⟨solvent_iff_along now steps token, ?_, ?_⟩
  · have hrun : Outside D token s :=
      run_invariant outside_step steps
        ⟨steady_initial D now, fun _ => ⟨le_refl _, fun _ hbefore => by cases hbefore⟩⟩
    exact fun hticket => (hrun.sealed hticket).1
  · have hrun := run_le_rise (I := Steady D)
      (g := fun s => (purse C D.pool s.state token).accepted + (purse C D.pool s.state token).gap)
      (f := fun s => s.state.world.balance token C.escrow) steady_step
      (fun s a h => accepted_step s a h) steps (steady_initial D now)
    refine le_trans (Nat.le_add_right _ _) (hrun.trans (le_of_eq ?_))
    exact Nat.zero_add _

/-! ## A ticket accepted as funding before the pool has fetched it -/

namespace Recycled

def chain : Chain where
  escrow := 1
  chainId := 0
  poseidonHashSpan := fun _ => 0
  checkEcdsaSignature := fun _ _ _ _ => true
  addressOf := fun _ salt _ => Fin.ofNat _ (100 + salt.val)
  classOf := fun classHash =>
    if classHash = 1 then some .claim else if classHash = 2 then some .lock else none

def deployment : Deployment chain.erc20 where
  pool := 2
  ticketClassHash := 1
  lockTicketClassHash := 2
  pool_ne := by decide
  ticketClass := rfl
  lockTicketClass := rfl

/-- In one transaction deal 1 is funded, and the unit of its ticket (at 101) that the escrow has
just minted for the pool is accepted as the funding of deal 2. -/
def steps : List (NetStep chain.erc20) :=
  [.issue 4 (2, 10), .escrow 3 1 (.ensureTicket 1), .escrow 3 1 (.prepareFunding 4),
    .escrow 3 1 (.prepareFunding 101), .token 2 4 (.transfer 1 5),
    .escrow 2 1 (.privacyInvoke (.fund ⟨4, 5, 6, 1, 100⟩) 1 2 1),
    .escrow 2 1 (.privacyInvoke (.fund ⟨101, 1, 6, 1, 100⟩) 2 2 2)]

end Recycled

instance (D : Deployment C.erc20) (token : ContractAddress) (s : Sys (World Erc20)) :
    Decidable (Solvent D token s) := inferInstanceAs (Decidable (_ ≤ _))

theorem not_always_solvent :
    ¬ ∀ (C : Chain) (D : Deployment C.erc20) (now : U64) (steps : List (NetStep C.erc20))
      (token : ContractAddress), Solvent D token (D.reached now steps) := by
  intro h
  have hsolvent := h Recycled.chain Recycled.deployment 0 Recycled.steps 101
  exact absurd hsolvent (by decide +kernel)

/-! ## What was funded -/

variable {X : Type} {P : Platform X}

/-- What a call pays out of the books: its deposits, but for those of a ticket that it minted. -/
def pays (token : ContractAddress) (out : List OpenNoteDeposit) : Call → Nat
  | .privacyInvoke (.fund _) _ _ _ | .privacyInvoke (.lock _) _ _ _ => 0
  | _ => (out.map fun d => if d.token = token then d.amount.val else 0).sum

def Conserved (token : ContractAddress) (s : Sys X) : Prop :=
  funded token s.state.events =
    (s.receipts.map fun r => pays token r.deposits r.call).sum + (s.state.storage.accounted token).val

attribute [local simp] funded_append funded_singleton Event.accepts pays Storage.setDeal
  Storage.setAccounted Storage.consumeSnapshot Storage.setSnapshot Storage.setLock

theorem conserved_call (token : ContractAddress) {s t : State X} {cx : CallContext} {c : Call}
    {out : List OpenNoteDeposit} (hcall : Executes P cx s t c out) (h : Booked s.storage) :
    funded token t.events + (s.storage.accounted token).val =
      funded token s.events + pays token out c + (t.storage.accounted token).val := by
  cases hcall with
  | prepares _ _ _ hstorage hevents | ensures _ hstorage hevents
  | ensuresLock _ hstorage hevents =>
    rw [hstorage, hevents]
    rfl
  | funds _ run | locks _ run =>
    have hnext := run.next_eq
    simp only [run.events_eq, run.storage_eq, funded_append, funded_singleton, Event.accepts, pays]
    refine Eq.trans ?_ (congrArg _ (update_val token).symm)
    split
    · subst_vars
      omega
    · rfl
  | fills _ run =>
    obtain ⟨_, -, -, hafter⟩ := run.paidA
    have := exchanged_val ((h.deals _).legs_ne run.funded).symm run.afterB_eq hafter token
    simp [run.events_eq, run.storage_eq, run.out_eq]
    omega
  | takes _ run =>
    obtain ⟨_, -, -, hafter⟩ := run.paidB
    have := exchanged_val run.tokens_ne run.nextA_eq hafter token
    simp [run.events_eq, run.accounted_eq, run.out_eq, funded_applied run.applied]
    omega
  | claims _ run | timesOut _ run =>
    have := paid_val run.paid token
    simp [run.events_eq, run.storage_eq, run.out_eq]
    omega
  | settles _ run | releases _ run =>
    have := paidPositive_val run.paid token
    simp [run.events_eq, run.storage_eq, run.out_eq]
    split <;> simp_all
    omega

/-- Over every run, whatever the tokens answer, what was accepted as funding was paid out or is on the
books. -/
theorem funded_conserved (P : Platform X) (pool : ContractAddress)
    (ticketClassHash lockTicketClassHash : Felt) (world : X) (now : U64) (steps : List (Step X))
    (token : ContractAddress) :
    Conserved token (reached P pool ticketClassHash lockTicketClassHash world now steps) := by
  refine (run_induction (I := fun s => Sound s ∧ Conserved token s)
    (fun _ _ htime h => ⟨⟨fun id => (h.1.locks id).later htime, h.1.booked⟩, h.2⟩)
    (fun _ _ h => ⟨⟨h.1.locks, h.1.booked⟩, h.2⟩) (fun _ _ _ _ _ _ hcall h => ?_) steps
    ⟨sound_run (P := P) pool ticketClassHash lockTicketClassHash world now [], rfl⟩).2
  have hstep := conserved_call token hcall h.1.booked
  have heq := h.2
  refine ⟨sound_call hcall h.1, ?_⟩
  simp only [Conserved, List.map_append, List.sum_append, List.map_singleton,
    List.sum_singleton] at heq ⊢
  omega

end App20.Escrow
