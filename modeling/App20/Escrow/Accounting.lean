import App20.Escrow.Locks
import App20.Lib.Totals

/-!
# The accounted balance

`owed s T` is what the escrow owes in token `T`: leg A of the funded deals, leg B of the filled
ones, and what the locks hold for their two payouts. `Booked` says that `accounted` is exactly
this for every token. Each entry point changes one deal or some locks, and `total_update` turns
the change into an equation between natural numbers.
-/

namespace App20.Escrow

open App20.Lib App20.Lib.Exec App20.Starknet
open Function (update update_apply)

/-! ## What is owed -/

def dealOwes (token : ContractAddress) (d : Deal) : Nat :=
  match d.status with
  | .funded => if d.legAToken = token then d.legAAmount.val else 0
  | .filled => if d.legBToken = token then d.legBAmount.val else 0
  | _ => 0

def lockOwes (token : ContractAddress) (l : Lock) : Nat :=
  (if l.tokenB = token ∧ l.collateralReleased = false then l.remainingB.val else 0) +
    (if l.tokenA = token ∧ l.proceedsSettled = false then l.earnedA.val else 0)

/-- The sum of all obligations in a token. -/
def owed (s : Storage) (token : ContractAddress) : Nat :=
  total (dealOwes token) s.deals + total (lockOwes token) s.locks

/-- An open deal has two tokens and owes something. -/
structure Deal.Sound (d : Deal) : Prop where
  legs_ne : d.status = .funded → d.legAToken ≠ d.legBToken
  terms_pos : d.status = .funded → 0 < d.legAAmount.val ∧ 0 < d.legBTerms.val
  legB_pos : d.status = .filled → 0 < d.legBAmount.val

structure Booked (s : Storage) : Prop where
  accounted_eq : ∀ token, (s.accounted token).val = owed s token
  deals : ∀ id, (s.deals id).Sound

variable {d : Deal} {cx : CallContext} {dealId noteId id lockId : Felt}
  {pool token tokenA tokenB : ContractAddress} {out : List OpenNoteDeposit} {l l' : Lock}
  {f : ContractAddress → U256} {next after : U256} {params : TakeParams} {amountA : U128}
  {locks' : Felt → Lock} {events : List Event}

theorem Deal.Sound.closed (h : d.status = .empty ∨ d.status = .settled ∨ d.status = .timedOut) :
    d.Sound := by
  refine ⟨fun hs => ?_, fun hs => ?_, fun hs => ?_⟩ <;> rw [hs] at h <;> simp at h

theorem dealOwes_le {s : Storage} (h : Booked s) (id : Felt) (token : ContractAddress) :
    dealOwes token (s.deals id) ≤ (s.accounted token).val := by
  rw [h.accounted_eq, owed]
  exact le_trans (le_total _ _ _) (Nat.le_add_right _ _)

theorem lockOwes_le {s : Storage} (h : Booked s) (id : Felt) (token : ContractAddress) :
    lockOwes token (s.locks id) ≤ (s.accounted token).val := by
  rw [h.accounted_eq, owed]
  exact le_trans (le_total _ _ _) (Nat.le_add_left _ _)

theorem dealOwes_legA (h : d.status = .funded) (token : ContractAddress) :
    dealOwes token d = if d.legAToken = token then d.legAAmount.val else 0 := by
  unfold dealOwes
  rw [h]

theorem dealOwes_legB (h : d.status = .filled) (token : ContractAddress) :
    dealOwes token d = if d.legBToken = token then d.legBAmount.val else 0 := by
  unfold dealOwes
  rw [h]

theorem dealOwes_none (h : d.status = .empty ∨ d.status = .settled ∨ d.status = .timedOut)
    (token : ContractAddress) : dealOwes token d = 0 := by
  unfold dealOwes
  rcases h with h | h | h <;> rw [h]

theorem lockOwes_default (token : ContractAddress) : lockOwes token Lock.default = 0 := by
  unfold lockOwes
  split <;> split <;> rfl

/-! ## Changes of one token's balance -/

/-- After a change of the balance of one token and of one deal, the books are right when they
are right for the deal. -/
theorem Booked.setDeal {s t : Storage} (h : Booked s)
    (hdeals : t.deals = update s.deals id d) (hlocks : t.locks = s.locks) (hd : d.Sound)
    (haccounted : ∀ token, (t.accounted token).val + dealOwes token (s.deals id) =
      (s.accounted token).val + dealOwes token d) : Booked t := by
  refine ⟨?_, ?_⟩
  · intro token
    have hold := h.accounted_eq token
    have hchange := haccounted token
    have htotal := total_update (dealOwes token) s.deals id d
    unfold owed at hold ⊢
    rw [hdeals, hlocks]
    omega
  · intro id'
    rw [hdeals]
    by_cases hid : id' = id
    · rw [hid, Function.update_self]
      exact hd
    · rw [Function.update_of_ne hid]
      exact h.deals id'

theorem Booked.setLock {s t : Storage} (h : Booked s) (hdeals : t.deals = s.deals)
    (hlocks : t.locks = update s.locks id l)
    (haccounted : ∀ token, (t.accounted token).val + lockOwes token (s.locks id) =
      (s.accounted token).val + lockOwes token l) : Booked t := by
  refine ⟨?_, ?_⟩
  · intro token
    have hold := h.accounted_eq token
    have hchange := haccounted token
    have htotal := total_update (lockOwes token) s.locks id l
    unfold owed at hold ⊢
    rw [hdeals, hlocks]
    omega
  · rw [hdeals]
    exact h.deals

theorem Booked.frame {s t : Storage} (h : Booked s) (hdeals : t.deals = s.deals)
    (hlocks : t.locks = s.locks) (haccounted : t.accounted = s.accounted) : Booked t := by
  refine ⟨?_, ?_⟩
  · intro token
    rw [haccounted, h.accounted_eq, owed, owed, hdeals, hlocks]
  · rw [hdeals]
    exact h.deals

theorem update_val {v : U256} (token' : ContractAddress) :
    (update f token v token').val = if token = token' then v.val else (f token').val := by
  rw [update_apply]
  split <;> split <;> simp_all

/-- Funding in one token against a payment in another. -/
theorem exchanged_val {source target : ContractAddress} {amount paid : Nat} (hne : source ≠ target)
    (hnext : next.val = (f source).val + amount) (hafter : (f target).val = after.val + paid)
    (token : ContractAddress) :
    (update (update f target after) source next token).val + (if target = token then paid else 0) =
      (f token).val + if source = token then amount else 0 := by
  rw [update_val, update_val]
  by_cases hsource : source = token
  · subst hsource
    rw [if_pos rfl, if_neg (Ne.symm hne), if_pos rfl, hnext, Nat.add_zero]
  · rw [if_neg hsource, if_neg hsource, Nat.add_zero]
    by_cases htarget : target = token
    · subst htarget
      rw [if_pos rfl, if_pos rfl, hafter]
    · rw [if_neg htarget, if_neg htarget, Nat.add_zero]

variable {X : Type} {P : Platform X}

/-! ## Deals -/

variable {s t : State X} {w1 w2 : X}

theorem booked_funds {params : FundParams} {ticket : ContractAddress} {w3 : X}
    (h : Booked s.storage) (run : Funds P cx dealId noteId params pool s t out ticket next w1 w2 w3) :
    Booked t.storage := by
  rw [run.storage_eq]
  have hamount : 0 < params.amount.val := Nat.pos_of_ne_zero fun hzero =>
    run.amount_ne (Fin.ext hzero)
  have hcounter : 0 < params.counterAmount.val := Nat.pos_of_ne_zero fun hzero =>
    run.counterAmount_ne (Fin.ext hzero)
  refine h.setDeal rfl rfl ⟨fun _ => run.tokens_ne, fun _ => ⟨hamount, hcounter⟩,
    fun hfilled => by cases hfilled⟩ ?_
  intro token
  rw [dealOwes_none (Or.inl run.empty), dealOwes_legA rfl]
  refine (congrArg (· + 0) (update_val token)).trans ?_
  split
  · next heq =>
    rw [run.next_eq, heq]
    rfl
  · rfl

theorem booked_fills {params : FillParams} {afterA afterB : U256} (h : Booked s.storage)
    (run : Fills P cx dealId noteId params pool s t out afterA afterB w1 w2) :
    Booked t.storage := by
  obtain ⟨balance, -, -, hafterA⟩ := run.paidA
  rw [run.storage_eq]
  refine h.setDeal rfl rfl ⟨(fun hfunded => by cases hfunded),
    (fun hfunded => by cases hfunded), fun _ => ((h.deals dealId).terms_pos run.funded).2⟩ ?_
  intro token
  rw [dealOwes_legA run.funded, dealOwes_legB rfl]
  exact exchanged_val ((h.deals dealId).legs_ne run.funded).symm run.afterB_eq hafterA token

/-- A payment takes the amount out of the balance of its token. -/
theorem paid_val {amount : U128} {w w' : X} (h : Paid P (f token) token amount after w w')
    (token' : ContractAddress) :
    (update f token after token').val + (if token = token' then amount.val else 0) =
      (f token').val := by
  obtain ⟨balance, -, -, hafter⟩ := h
  rw [update_val]
  by_cases heq : token = token'
  · subst heq
    rw [if_pos rfl, if_pos rfl, hafter]
  · rw [if_neg heq, if_neg heq, Nat.add_zero]

theorem booked_claims (h : Booked s.storage)
    (run : Claims P dealId noteId pool s t out after w1 w2) : Booked t.storage := by
  rw [run.storage_eq]
  refine h.setDeal rfl rfl (Deal.Sound.closed (Or.inr (Or.inl rfl))) ?_
  intro token
  rw [dealOwes_legB run.filled, dealOwes_none (Or.inr (Or.inl rfl))]
  exact paid_val run.paid token

theorem booked_timesOut (h : Booked s.storage)
    (run : TimesOut P cx dealId noteId pool s t out after w1 w2) : Booked t.storage := by
  rw [run.storage_eq]
  refine h.setDeal rfl rfl (Deal.Sound.closed (Or.inr (Or.inr rfl))) ?_
  intro token
  rw [dealOwes_legA run.funded, dealOwes_none (Or.inr (Or.inr rfl))]
  exact paid_val run.paid token

/-! ## Locks -/

theorem booked_locks {params : LockParams} {ticket : ContractAddress} {w3 : X}
    (h : Booked s.storage)
    (hempty : (s.storage.locks lockId).status = .empty → s.storage.locks lockId = Lock.default)
    (run : Locks P cx lockId noteId params pool s t out ticket next w1 w2 w3) :
    Booked t.storage := by
  rw [run.storage_eq]
  refine h.setLock rfl rfl ?_
  intro token
  rw [hempty run.empty, lockOwes_default]
  refine (congrArg (· + 0) (update_val token)).trans ?_
  unfold lockOwes
  dsimp only
  by_cases heq : params.token = token
  · subst heq
    rw [if_pos rfl, if_pos ⟨rfl, rfl⟩, run.next_eq]
    split <;> rfl
  · rw [if_neg heq, if_neg fun hand => heq hand.1]
    split <;> rfl

theorem paidPositive_val {amount : U128} {w w' : X}
    (h : PaidPositive P (f token) token pool amount after w w') (token' : ContractAddress) :
    (update f token after token').val + (if token = token' then amount.val else 0) =
      (f token').val := by
  rcases h with ⟨-, w1, hpaid, -⟩ | ⟨hzero, rfl, -⟩
  · exact paid_val hpaid token'
  · rw [Function.update_eq_self, hzero, ite_self, Nat.add_zero]

theorem booked_settles (h : Booked s.storage)
    (run : Settles P cx lockId noteId pool s t out after w1) : Booked t.storage := by
  rw [run.storage_eq]
  refine h.setLock rfl rfl ?_
  intro token
  have hpaid := paidPositive_val run.paid token
  have hflag := run.unsettled
  unfold lockOwes
  simp only [hflag, and_true, Bool.true_eq_false, and_false, if_false, Nat.add_zero]
  exact (by omega : ∀ a b c d : Nat, a + b = c → a + (d + b) = c + d) _ _ _ _ hpaid

theorem booked_releases (h : Booked s.storage)
    (run : Releases P cx lockId noteId pool s t out after w1) : Booked t.storage := by
  rw [run.storage_eq]
  refine h.setLock rfl rfl ?_
  intro token
  have hpaid := paidPositive_val run.paid token
  have hflag := run.unreleased
  unfold lockOwes
  simp only [hflag, and_true, Bool.true_eq_false, and_false, if_false, Nat.zero_add]
  exact (by omega : ∀ a b c d : Nat, a + b = c → a + (b + d) = c + d) _ _ _ _ hpaid

/-! ## Takes -/

/-- A lock that the checking loop accepts holds nothing but its two sides in the two tokens. -/
structure Holding (tokenA tokenB : ContractAddress) (l : Lock) : Prop where
  tokenA_eq : l.tokenA = tokenA
  tokenB_eq : l.tokenB = tokenB
  unsettled : l.proceedsSettled = false
  unreleased : l.collateralReleased = false

theorem Fillable.holding (h : Fillable cx dealId params l amountA)
    (hunpaid : l.proceedsSettled = false ∧ l.collateralReleased = false) :
    Holding params.token params.counterToken l := ⟨h.tokenA_eq, h.tokenB_eq, hunpaid.1, hunpaid.2⟩

theorem Holding.taken {amountB : U128} (h : Holding tokenA tokenB l)
    (htaken : Taken l amountA amountB l') : Holding tokenA tokenB l' := by
  rw [htaken.rest]
  exact ⟨h.tokenA_eq, h.tokenB_eq, h.unsettled, h.unreleased⟩

theorem lockOwes_taken {amountB : U128} (h : Holding tokenA tokenB l)
    (htaken : Taken l amountA amountB l') (token : ContractAddress) :
    lockOwes token l' + (if tokenB = token then amountB.val else 0) =
      lockOwes token l + (if tokenA = token then amountA.val else 0) := by
  have h' := h.taken htaken
  have hrem := htaken.remainingB_eq
  have hearned := htaken.earnedA_eq
  unfold lockOwes
  rw [h.tokenA_eq, h.tokenB_eq, h.unsettled, h.unreleased, h'.tokenA_eq, h'.tokenB_eq,
    h'.unsettled, h'.unreleased]
  simp only [and_true]
  split <;> split <;> omega

theorem fillB_update {locks : Felt → Lock} (h : l'.schedule = (locks id).schedule) (fill : TakeFill) :
    fillB (update locks id l') fill = fillB locks fill := by
  have hschedule : (update locks id l' fill.lockId).schedule = (locks fill.lockId).schedule := by
    rw [update_apply]
    split
    · next heq => rw [h, heq]
    · rfl
  unfold fillB evaluateLockSchedule
  rw [hschedule]

theorem Applied.owed {fills : List TakeFill} {locks : Felt → Lock}
    (h : Applied dealId fills locks locks' events)
    (hholding : ∀ fill ∈ fills, Holding tokenA tokenB (locks fill.lockId)) (token : ContractAddress) :
    total (lockOwes token) locks' + (if tokenB = token then (fills.map (fillB locks)).sum else 0) =
      total (lockOwes token) locks +
        (if tokenA = token then (fills.map fun fill => fill.amountA.val).sum else 0) := by
  induction h with
  | nil => simp
  | @cons fill fills locks locks' l' amountB events taken rest ih =>
    obtain ⟨hhead, htail⟩ := List.forall_mem_cons.mp hholding
    have hstep := lockOwes_taken hhead taken token
    have htotal := total_update (lockOwes token) locks fill.lockId l'
    have hrest := ih fun other hother => by
      rw [update_apply]
      split
      · exact hhead.taken taken
      · exact htail other hother
    have hcosts : fills.map (fillB (update locks fill.lockId l')) = fills.map (fillB locks) :=
      List.map_congr_left fun other _ => fillB_update (by rw [taken.rest]) other
    rw [hcosts] at hrest
    rw [List.map_cons, List.sum_cons, List.map_cons, List.sum_cons, fillB_of_ok taken.evaluated]
    by_cases hA : tokenA = token <;> by_cases hB : tokenB = token <;>
      simp only [hA, hB, if_true, if_false] at hstep hrest ⊢ <;> omega

theorem Takes.accounted_eq {record : TakeRecord} {nextA nextB : U256}
    (run : Takes P cx dealId noteId params pool s t out locks' events record nextA nextB w1 w2) :
    t.storage.accounted = update
      (update s.storage.accounted params.counterToken nextB) params.token nextA := by
  rw [run.storage_eq, Function.update_comm run.tokens_ne.symm]
  rfl

theorem booked_takes {record : TakeRecord} {nextA nextB : U256} (h : Booked s.storage)
    (hunpaid : ∀ fill ∈ params.fills, (s.storage.locks fill.lockId).proceedsSettled = false ∧
      (s.storage.locks fill.lockId).collateralReleased = false)
    (run : Takes P cx dealId noteId params pool s t out locks' events record nextA nextB w1 w2) :
    Booked t.storage := by
  have hholding : ∀ fill ∈ params.fills,
      Holding params.token params.counterToken (s.storage.locks fill.lockId) :=
    fun fill hmem => (run.fillable fill hmem).holding (hunpaid fill hmem)
  refine ⟨?_, ?_⟩
  · intro token
    have hold := h.accounted_eq token
    have hmoved := run.applied.owed hholding token
    rw [← run.totalA_eq, ← run.totalB_eq] at hmoved
    have howed : Escrow.owed t.storage token =
        total (dealOwes token) s.storage.deals + total (lockOwes token) locks' := by
      rw [run.storage_eq]
      rfl
    obtain ⟨balance, -, -, hnextB⟩ := run.paidB
    have hexchanged := exchanged_val run.tokens_ne run.nextA_eq hnextB token
    rw [run.accounted_eq, howed]
    unfold Escrow.owed at hold
    by_cases hB : params.counterToken = token <;> by_cases hA : params.token = token <;>
      simp only [hA, hB, if_true, if_false] at hmoved hexchanged ⊢ <;> omega
  · intro id
    rw [run.storage_eq]
    exact h.deals id

/-! ## Runs -/

theorem booked_call {s : Sys X} {caller : ContractAddress} {transactionHash : Felt} {c : Call}
    (hcall : Executes P ⟨caller, s.now, transactionHash⟩ s.state t c out)
    (hlocks : ∀ id, LockSoundAt s id) (h : Booked s.state.storage) : Booked t.storage := by
  cases hcall with
  | prepares _ _ _ hstorage _ | ensures _ hstorage _ | ensuresLock _ hstorage _ =>
    rw [hstorage]
    exact h.frame rfl rfl rfl
  | funds _ run => exact booked_funds h run
  | fills _ run => exact booked_fills h run
  | claims _ run => exact booked_claims h run
  | timesOut _ run => exact booked_timesOut h run
  | locks _ run => exact booked_locks h (hlocks _).empty run
  | takes _ run =>
    refine booked_takes h (fun fill hmem => ?_) run
    have hunpaid := (hlocks fill.lockId).unpaid (run.fillable fill hmem).open_
    exact ⟨hunpaid.1, hunpaid.2.1⟩
  | settles _ run => exact booked_settles h run
  | releases _ run => exact booked_releases h run

theorem booked_initial (pool : ContractAddress) (ticketClassHash lockTicketClassHash : Felt) :
    Booked (Storage.initial pool ticketClassHash lockTicketClassHash) := by
  refine ⟨?_, ?_⟩
  · intro token
    unfold Escrow.owed
    rw [total_eq_zero (m := (Storage.initial pool ticketClassHash lockTicketClassHash).deals)
        fun _ => dealOwes_none (Or.inl rfl) token,
      total_eq_zero (m := (Storage.initial pool ticketClassHash lockTicketClassHash).locks)
        fun _ => lockOwes_default token]
    rfl
  · exact fun _ => Deal.Sound.closed (Or.inl rfl)

/-- What the states of a run satisfy. -/
structure Sound (s : Sys X) : Prop where
  locks : ∀ id, LockSoundAt s id
  booked : Booked s.state.storage

theorem sound_call {s : Sys X} {caller : ContractAddress} {transactionHash : Felt} {c : Call}
    (hcall : Executes P ⟨caller, s.now, transactionHash⟩ s.state t c out) (h : Sound s) :
    Sound ⟨t, s.now, s.receipts ++ [⟨caller, transactionHash, c, out⟩]⟩ :=
  ⟨lockSoundAt_call hcall h.locks, booked_call hcall h.locks h.booked⟩

theorem sound_run (pool : ContractAddress) (ticketClassHash lockTicketClassHash : Felt)
    (world : X) (now : U64) (steps : List (Step X)) :
    Sound (reached P pool ticketClassHash lockTicketClassHash world now steps) :=
  run_induction (fun _ _ htime h => ⟨fun id => (h.locks id).later htime, h.booked⟩)
    (fun _ _ h => ⟨h.locks, h.booked⟩) (fun _ _ _ _ _ _ hcall h => sound_call hcall h) steps
    ⟨fun _ => LockSound.default rfl, booked_initial pool ticketClassHash lockTicketClassHash⟩

end App20.Escrow
