import App20.Escrow.System

/-!
# The life of a lock

A lock is untouched until the one take that fills it, and from its expiry on its proceeds and
its collateral are paid out once each. `LockSound` says this of one lock, together with the
takes of its RFQ, the `LockTaken` events that name it and the receipts of its two payouts;
`lockSound_run` carries it over every run.
-/

namespace App20.Escrow

open App20.Lib App20.Lib.Exec App20.Starknet

/-! ## What is said of a lock -/

def Event.takesLock (id : Felt) : Event → Bool
  | .lockTaken lockId _ _ _ _ => lockId = id
  | _ => false

def Receipt.settlesLock (id : Felt) (r : Receipt) : Bool :=
  match r.call with
  | .privacyInvoke .settleProceeds lockId _ _ => lockId = id
  | _ => false

def Receipt.releasesLock (id : Felt) (r : Receipt) : Bool :=
  match r.call with
  | .privacyInvoke .releaseCollateral lockId _ _ => lockId = id
  | _ => false

/-- No fill has touched the lock. -/
structure Lock.Untouched (l : Lock) : Prop where
  remainingB_eq : l.remainingB = scheduleMaxB l.schedule
  earnedA_eq : l.earnedA = 0

/-- One fill has taken the lock: what it earned lies on the schedule, and what remains is the
rest of the collateral, as a subtraction of natural numbers. -/
structure Lock.TakenOnce (l : Lock) : Prop where
  first_le : l.schedule.p0A.val ≤ l.earnedA.val
  le_max : l.earnedA.val ≤ l.schedule.maxA.val
  evaluated : ∃ amountB, evaluateSchedule l.schedule l.earnedA = .ok amountB ∧
    amountB.val ≤ (scheduleMaxB l.schedule).val ∧
    l.remainingB.val = (scheduleMaxB l.schedule).val - amountB.val

/-- A payout of a lock has not happened, or has happened once and in the exact amount. -/
def PaidOnce (paid : Bool) (operation : EscrowOperation) (id : Felt) (token : ContractAddress)
    (amount : U128) (payouts : List Receipt) : Prop :=
  (paid = false ∧ payouts = []) ∨ (paid = true ∧ ∃ r poolAddress noteId, payouts = [r] ∧
    r.call = .privacyInvoke operation id poolAddress noteId ∧
    r.deposits = if amount = 0 then [] else [⟨noteId, token, amount⟩])

/-- What holds of the lock `l` with this id: `fillCount` is the fill count of the take of its
RFQ, `takings` counts the events that took it, and the receipts are those of its payouts. -/
structure LockSound (id : Felt) (l : Lock) (fillCount : U8) (takings : Nat) (now : U64)
    (settlements releases : List Receipt) : Prop where
  empty : l.status = .empty → l = Lock.default
  closed_iff : l.status = .closed ↔ l.proceedsSettled = true ∧ l.collateralReleased = true
  expired : l.proceedsSettled = true ∨ l.collateralReleased = true → l.expiry.val ≤ now.val
  progress : (l.Untouched ∧ takings = 0) ∨ (l.TakenOnce ∧ takings = 1 ∧ fillCount ≠ 0)
  settled : PaidOnce l.proceedsSettled .settleProceeds id l.tokenA l.earnedA settlements
  released : PaidOnce l.collateralReleased .releaseCollateral id l.tokenB l.remainingB releases

variable {X : Type} {P : Platform X}

/-- The facts about the lock with this id, read off the state of the system. -/
def LockSoundAt (s : Sys X) (id : Felt) : Prop :=
  LockSound id (s.state.storage.locks id)
    (s.state.storage.takes (s.state.storage.locks id).rfqId).fillCount
    (s.state.events.countP (Event.takesLock id)) s.now
    (s.receipts.filter (Receipt.settlesLock id)) (s.receipts.filter (Receipt.releasesLock id))

/-! ## Single changes -/

section Changes

variable {id : Felt} {l l' : Lock} {fillCount fillCount' : U8} {takings : Nat} {now now' : U64}
  {settlements releases : List Receipt}

theorem LockSound.default (h : l = Lock.default) : LockSound id l fillCount 0 now [] [] := by
  subst h
  exact ⟨fun _ => rfl, by decide, fun hf => absurd hf (by decide), Or.inl ⟨⟨rfl, rfl⟩, rfl⟩,
    Or.inl ⟨rfl, rfl⟩, Or.inl ⟨rfl, rfl⟩⟩

section

variable (h : LockSound id l fillCount takings now settlements releases)

include h

theorem LockSound.later (hnow : now.val ≤ now'.val) :
    LockSound id l fillCount takings now' settlements releases :=
  { h with expired := fun hf => le_trans (h.expired hf) hnow }

theorem LockSound.of_empty (he : l.status = .empty) :
    takings = 0 ∧ settlements = [] ∧ releases = [] := by
  have hl := h.empty he
  subst hl
  refine ⟨?_, ?_, ?_⟩
  · rcases h.progress with ⟨-, htakings⟩ | ⟨htaken, -, -⟩
    · exact htakings
    · obtain ⟨amountB, heval, -⟩ := htaken.evaluated
      exact absurd (evaluateSchedule_ok_iff.mp heval).1.len_pos (by decide)
  · rcases h.settled with ⟨-, hnil⟩ | ⟨htrue, -⟩
    · exact hnil
    · cases htrue
  · rcases h.released with ⟨-, hnil⟩ | ⟨htrue, -⟩
    · exact hnil
    · cases htrue

theorem LockSound.untouched (hfresh : fillCount = 0) : l.Untouched ∧ takings = 0 := by
  rcases h.progress with hunt | ⟨-, -, hcount⟩
  · exact hunt
  · exact absurd hfresh hcount

theorem LockSound.unpaid (hopen : now.val < l.expiry.val) :
    l.proceedsSettled = false ∧ l.collateralReleased = false ∧ settlements = [] ∧
      releases = [] := by
  have hflags : ¬ (l.proceedsSettled = true ∨ l.collateralReleased = true) := by
    intro hf
    have := h.expired hf
    omega
  rw [not_or, Bool.not_eq_true, Bool.not_eq_true] at hflags
  refine ⟨hflags.1, hflags.2, ?_, ?_⟩
  · rcases h.settled with ⟨-, hnil⟩ | ⟨htrue, -⟩
    · exact hnil
    · rw [hflags.1] at htrue
      cases htrue
  · rcases h.released with ⟨-, hnil⟩ | ⟨htrue, -⟩
    · exact hnil
    · rw [hflags.2] at htrue
      cases htrue

end

theorem LockSound.take {amountA amountB : U128}
    (h : LockSound id l fillCount takings now settlements releases)
    (hfresh : fillCount = 0) (hopened : l.status = .opened) (hopen : now.val < l.expiry.val)
    (htaken : Taken l amountA amountB l') (hcount : fillCount' ≠ 0) :
    LockSound id l' fillCount' 1 now settlements releases := by
  obtain ⟨⟨hrem, hearned⟩, -⟩ := h.untouched hfresh
  obtain ⟨hsettled, hreleased, hnil, hnil'⟩ := h.unpaid hopen
  have heval : evaluateSchedule l.schedule amountA = .ok amountB := htaken.evaluated
  obtain ⟨hfirst, hmaxA, -, hmaxB⟩ := evaluateSchedule_bounds heval
  have hearned' : l'.earnedA = amountA := by
    apply Fin.ext
    rw [htaken.earnedA_eq, hearned]
    exact Nat.zero_add _
  have hrem' := htaken.remainingB_eq
  rw [hrem] at hrem'
  rw [htaken.rest, hearned']
  refine ⟨?_, ?_, ?_, Or.inr ⟨⟨hfirst, hmaxA, amountB, heval, hmaxB, ?_⟩, rfl, hcount⟩,
    Or.inl ⟨hsettled, hnil⟩, Or.inl ⟨hreleased, hnil'⟩⟩
  · intro he
    rw [hopened] at he
    cases he
  · exact h.closed_iff
  · exact h.expired
  · dsimp only
    omega

end Changes

/-! ## The updating loop -/

variable {dealId transactionHash lockId noteId : Felt} {locks' : Felt → Lock} {events : List Event}
  {s : Sys X} {t : State X} {r : Receipt} {caller poolAddress pool : ContractAddress} {w1 : X}
  {out : List OpenNoteDeposit}

theorem Applied.takings_other {fills : List TakeFill} {locks : Felt → Lock}
    (h : Applied dealId fills locks locks' events) {id : Felt}
    (hid : ∀ fill ∈ fills, fill.lockId ≠ id) : events.countP (Event.takesLock id) = 0 := by
  induction h with
  | nil => rfl
  | cons taken rest ih =>
    obtain ⟨hhead, htail⟩ := List.forall_mem_cons.mp hid
    rw [List.countP_cons_of_neg (by simp [Event.takesLock, hhead]), ih htail]

theorem Applied.takings_taken {fills : List TakeFill} {locks : Felt → Lock}
    (h : Applied dealId fills locks locks' events)
    (hdistinct : fills.Pairwise fun fill other => fill.lockId ≠ other.lockId) {fill : TakeFill}
    (hfill : fill ∈ fills) : events.countP (Event.takesLock fill.lockId) = 1 := by
  induction h with
  | nil => cases hfill
  | cons taken rest ih =>
    obtain ⟨hhead, htail⟩ := List.pairwise_cons.mp hdistinct
    rcases List.mem_cons.mp hfill with rfl | hmem
    · rw [List.countP_cons_of_pos (by simp [Event.takesLock]),
        rest.takings_other fun other hother => (hhead other hother).symm]
    · rw [List.countP_cons_of_neg (by simp [Event.takesLock, hhead fill hmem]), ih htail hmem]

/-! ## Calls -/

theorem takings_append {id : Felt} {event : Event} (h : event.takesLock id = false) :
    (events ++ [event]).countP (Event.takesLock id) = events.countP (Event.takesLock id) := by
  rw [List.countP_append, List.countP_singleton, if_neg (by simp [h]), Nat.add_zero]

/-- A call that names no payout of the lock and no take leaves what is said of it, as long as
the lock stays. -/
theorem LockSoundAt.frame {id : Felt} (h : LockSoundAt s id)
    (hlock : t.storage.locks id = s.state.storage.locks id)
    (htakes : t.storage.takes = s.state.storage.takes)
    (hcount : t.events.countP (Event.takesLock id) = s.state.events.countP (Event.takesLock id))
    (hsettle : r.settlesLock id = false) (hrelease : r.releasesLock id = false) :
    LockSoundAt ⟨t, s.now, s.receipts ++ [r]⟩ id := by
  unfold LockSoundAt
  dsimp only
  rw [hlock, htakes, hcount, List.filter_append, List.filter_append,
    List.filter_singleton, List.filter_singleton, hsettle, hrelease]
  simpa [LockSoundAt] using h

/-- A call that replaces one lock and takes none. -/
theorem lockSoundAt_setLock {l : Lock} {event : Event} (h : ∀ id, LockSoundAt s id)
    (hlocks : t.storage.locks = Function.update s.state.storage.locks lockId l)
    (htakes : t.storage.takes = s.state.storage.takes)
    (hevents : t.events = s.state.events ++ [event]) (hevent : ∀ id, event.takesLock id = false)
    (hother : ∀ id ≠ lockId, r.settlesLock id = false ∧ r.releasesLock id = false)
    (hlock : LockSound lockId l (s.state.storage.takes l.rfqId).fillCount
      (s.state.events.countP (Event.takesLock lockId)) s.now
      ((s.receipts ++ [r]).filter (Receipt.settlesLock lockId))
      ((s.receipts ++ [r]).filter (Receipt.releasesLock lockId))) (id : Felt) :
    LockSoundAt ⟨t, s.now, s.receipts ++ [r]⟩ id := by
  have hcount : t.events.countP (Event.takesLock id) =
      s.state.events.countP (Event.takesLock id) := by
    rw [hevents, takings_append (hevent id)]
  by_cases hid : id = lockId
  · subst hid
    unfold LockSoundAt
    dsimp only
    rw [hcount, htakes, hlocks, Function.update_self]
    exact hlock
  · exact (h id).frame (by rw [hlocks, Function.update_of_ne hid]) htakes hcount
      (hother id hid).1 (hother id hid).2

theorem lockSoundAt_locks {params : LockParams} {ticket : ContractAddress} {next : U256} {w2 w3 : X}
    (h : ∀ id, LockSoundAt s id)
    (run : Locks P ⟨caller, s.now, transactionHash⟩ lockId noteId params pool s.state t out ticket
      next w1 w2 w3) (id : Felt) :
    LockSoundAt ⟨t, s.now, s.receipts ++ [⟨caller, transactionHash,
      .privacyInvoke (.lock params) lockId poolAddress noteId, out⟩]⟩ id := by
  refine lockSoundAt_setLock h (by rw [run.storage_eq]; rfl) (by rw [run.storage_eq]; rfl)
    run.events_eq (fun _ => rfl) (fun _ _ => ⟨rfl, rfl⟩) ?_ id
  obtain ⟨htakings, hsettle, hrelease⟩ := (h lockId).of_empty run.empty
  simp only [htakings, List.filter_append, List.filter_singleton, hsettle, hrelease,
    Receipt.settlesLock, Receipt.releasesLock, cond_false, List.append_nil]
  exact ⟨by simp, by simp, by simp, Or.inl ⟨⟨rfl, rfl⟩, rfl⟩, Or.inl ⟨rfl, rfl⟩, Or.inl ⟨rfl, rfl⟩⟩

section

variable {id : Felt} {l : Lock} {fillCount : U8} {takings : Nat} {now : U64}
  {settlements releases : List Receipt}
  (h : LockSound id l fillCount takings now settlements releases) (hopened : l.status = .opened)

include h hopened

/-- The two payouts of a lock close it when the other one has been made. -/
theorem LockSound.pay {settled released : Bool} {settlements' releases' : List Receipt}
    (hexpired : l.expiry.val ≤ now.val)
    (hsettled : PaidOnce settled .settleProceeds id l.tokenA l.earnedA settlements')
    (hreleased : PaidOnce released .releaseCollateral id l.tokenB l.remainingB releases') :
    LockSound id
      { l with
        proceedsSettled := settled,
        collateralReleased := released,
        status := if settled && released then .closed else l.status }
      fillCount takings now settlements' releases' := by
  refine ⟨?_, ?_, fun _ => hexpired, ?_, hsettled, hreleased⟩
  · dsimp only
    rw [hopened]
    split <;> simp
  · dsimp only
    rw [hopened]
    cases settled <;> cases released <;> simp
  · rcases h.progress with ⟨⟨hrem, hearned⟩, htakings⟩ | ⟨⟨hfirst, hmax, heval⟩, htakings⟩
    · exact Or.inl ⟨⟨hrem, hearned⟩, htakings⟩
    · exact Or.inr ⟨⟨hfirst, hmax, heval⟩, htakings⟩

end

theorem PaidOnce.append {operation : EscrowOperation} {id : Felt} {token : ContractAddress}
    {amount : U128} {payouts : List Receipt} (h : PaidOnce false operation id token amount payouts)
    (hcall : r.call = .privacyInvoke operation id poolAddress noteId)
    (hout : r.deposits = if amount = 0 then [] else [⟨noteId, token, amount⟩]) :
    PaidOnce true operation id token amount (payouts ++ [r]) := by
  rcases h with ⟨-, rfl⟩ | ⟨htrue, -⟩
  · exact Or.inr ⟨rfl, r, poolAddress, noteId, rfl, hcall, hout⟩
  · cases htrue

theorem lockSoundAt_settles {after : U256} (h : ∀ id, LockSoundAt s id)
    (run : Settles P ⟨caller, s.now, transactionHash⟩ lockId noteId pool s.state t out after w1)
    (id : Felt) :
    LockSoundAt ⟨t, s.now, s.receipts ++ [⟨caller, transactionHash,
      .privacyInvoke .settleProceeds lockId poolAddress noteId, out⟩]⟩ id := by
  refine lockSoundAt_setLock h (by rw [run.storage_eq]; rfl) (by rw [run.storage_eq]; rfl)
    run.events_eq (fun _ => rfl) (fun _ hne => by simp [Receipt.settlesLock, Receipt.releasesLock,
      Ne.symm hne]) ?_ id
  simp only [List.filter_append, List.filter_singleton, Receipt.settlesLock, Receipt.releasesLock,
    decide_true, cond_true, cond_false, List.append_nil]
  exact (h lockId).pay run.opened run.expired
    (PaidOnce.append (run.unsettled ▸ (h lockId).settled) rfl run.out_eq) (h lockId).released

theorem lockSoundAt_releases {after : U256} (h : ∀ id, LockSoundAt s id)
    (run : Releases P ⟨caller, s.now, transactionHash⟩ lockId noteId pool s.state t out after w1)
    (id : Felt) :
    LockSoundAt ⟨t, s.now, s.receipts ++ [⟨caller, transactionHash,
      .privacyInvoke .releaseCollateral lockId poolAddress noteId, out⟩]⟩ id := by
  refine lockSoundAt_setLock h (by rw [run.storage_eq]; rfl) (by rw [run.storage_eq]; rfl)
    run.events_eq (fun _ => rfl) (fun _ hne => by simp [Receipt.settlesLock, Receipt.releasesLock,
      Ne.symm hne]) ?_ id
  simp only [List.filter_append, List.filter_singleton, Receipt.settlesLock, Receipt.releasesLock,
    decide_true, cond_true, cond_false, List.append_nil]
  have hpaid := (h lockId).pay run.opened run.expired (h lockId).settled
    (PaidOnce.append (r := ⟨caller, transactionHash, .privacyInvoke _ _ poolAddress _, out⟩)
      (run.unreleased ▸ (h lockId).released) rfl run.out_eq)
  rw [Bool.and_true] at hpaid
  exact hpaid

theorem lockSoundAt_takes {identityCommitment : Felt} {params : TakeParams} {record : TakeRecord}
    {nextA nextB : U256} {w2 : X} (h : ∀ id, LockSoundAt s id)
    (run : Takes P ⟨caller, s.now, transactionHash⟩ dealId noteId params pool s.state t out locks'
      events record nextA nextB w1 w2) (id : Felt) :
    LockSoundAt ⟨t, s.now, s.receipts ++ [⟨caller, transactionHash,
      .privacyInvokeWithComputation identityCommitment (.take params) dealId poolAddress noteId,
      out⟩]⟩ id := by
  have hid := h id
  unfold LockSoundAt at hid ⊢
  simp only [run.storage_eq, run.events_eq, Storage.setTake, Storage.setAccounted,
    Storage.consumeSnapshot, Storage.setSnapshot, List.filter_append, List.filter_singleton,
    Receipt.settlesLock, Receipt.releasesLock, cond_false, List.append_nil, List.countP_append,
    List.countP_singleton, Event.takesLock, Bool.false_eq_true, if_false, Nat.add_zero]
  by_cases hfill : ∃ fill ∈ params.fills, fill.lockId = id
  · -- The lock of a fill is untouched, because its RFQ has had no take.
    obtain ⟨fill, hmem, rfl⟩ := hfill
    obtain ⟨amountB, htaken⟩ := run.applied.taken run.distinct hmem
    have hfillable := run.fillable fill hmem
    rw [hfillable.rfqId_eq] at hid
    obtain ⟨-, htakings⟩ := hid.untouched run.fresh
    rw [run.applied.takings_taken run.distinct hmem, htakings]
    have hrfq : (locks' fill.lockId).rfqId = dealId := by
      rw [htaken.rest]
      exact hfillable.rfqId_eq
    rw [hrfq, Function.update_self]
    exact hid.take run.fresh hfillable.opened hfillable.open_ htaken run.fillCount_ne
  · rw [not_exists] at hfill
    have hother : ∀ fill ∈ params.fills, fill.lockId ≠ id :=
      fun fill hmem heq => hfill fill ⟨hmem, heq⟩
    rw [run.applied.other hother, run.applied.takings_other hother, Nat.add_zero]
    by_cases hrfq : (s.state.storage.locks id).rfqId = dealId
    · rw [hrfq, Function.update_self]
      rw [hrfq] at hid
      exact { hid with progress := Or.inl (hid.untouched run.fresh) }
    · rw [Function.update_of_ne hrfq]
      exact hid

theorem lockSoundAt_call {c : Call}
    (hcall : Executes P ⟨caller, s.now, transactionHash⟩ s.state t c out)
    (h : ∀ id, LockSoundAt s id) (id : Felt) :
    LockSoundAt ⟨t, s.now, s.receipts ++ [⟨caller, transactionHash, c, out⟩]⟩ id := by
  cases hcall with
  | prepares _ _ _ hstorage hevents | ensures _ hstorage hevents
  | ensuresLock _ hstorage hevents =>
    exact (h id).frame (by rw [hstorage]; rfl) (by rw [hstorage]; rfl) (by rw [hevents]) rfl rfl
  | funds _ run | fills _ run | claims _ run | timesOut _ run =>
    exact (h id).frame (by rw [run.storage_eq]; rfl) (by rw [run.storage_eq]; rfl)
      (by rw [run.events_eq, takings_append rfl]) rfl rfl
  | takes _ run => exact lockSoundAt_takes h run id
  | locks _ run => exact lockSoundAt_locks h run id
  | settles _ run => exact lockSoundAt_settles h run id
  | releases _ run => exact lockSoundAt_releases h run id

/-! ## Runs -/

end App20.Escrow
