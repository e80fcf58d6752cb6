import App20.Escrow.Take
import App20.Lib.Run

/-!
# Runs of the escrow

A run interleaves calls to the escrow, by any callers and with any arguments, with the passing
of time and with arbitrary changes of the state of the other contracts. A call that fails
leaves everything as it is; a call that returns leaves a receipt.
-/

namespace App20.Escrow

open App20.Lib App20.Lib.Exec App20.Starknet

/-- A call that returned, with the deposits it handed to the pool. -/
structure Receipt where
  caller : ContractAddress
  transactionHash : Felt
  call : Call
  deposits : List OpenNoteDeposit
  deriving DecidableEq

structure Sys (X : Type) where
  state : State X
  now : U64
  receipts : List Receipt

inductive Step (X : Type) where
  /-- The block time moves forward. -/
  | advance (time : U64)
  /-- The other contracts change among themselves. -/
  | interfere (f : X → X)
  | call (caller : ContractAddress) (transactionHash : Felt) (c : Call)

variable {X : Type}

/-- The storage after the constructor of the escrow. -/
def Storage.initial (pool : ContractAddress) (ticketClassHash lockTicketClassHash : Felt) :
    Storage :=
  { pool, ticketClassHash, lockTicketClassHash,
    deals := fun _ => Deal.default, tickets := fun _ => 0, accounted := fun _ => 0,
    lockTickets := fun _ => 0, locks := fun _ => Lock.default,
    takes := fun _ => TakeRecord.default, fundingSnapshots := fun _ => ⟨0, 0, false⟩ }

def Sys.initial (pool : ContractAddress) (ticketClassHash lockTicketClassHash : Felt) (world : X)
    (now : U64) : Sys X :=
  ⟨⟨Storage.initial pool ticketClassHash lockTicketClassHash, world, []⟩, now, []⟩

/-- Only a later block time is taken over, so time never runs back. -/
def step (P : Platform X) (s : Sys X) : Step X → Sys X
  | .advance time => if s.now.val ≤ time.val then { s with now := time } else s
  | .interfere f => { s with state := { s.state with world := f s.state.world } }
  | .call caller transactionHash c =>
    match (execute P ⟨caller, s.now, transactionHash⟩ c).run s.state with
    | .ok (deposits, t) => ⟨t, s.now, s.receipts ++ [⟨caller, transactionHash, c, deposits⟩]⟩
    | .error _ => s

/-- The state that a run reaches from the constructor. -/
def reached (P : Platform X) (pool : ContractAddress) (ticketClassHash lockTicketClassHash : Felt)
    (world : X) (now : U64) (steps : List (Step X)) : Sys X :=
  run (step P) (Sys.initial pool ticketClassHash lockTicketClassHash world now) steps

variable {P : Platform X}

/-- A call either fails and changes nothing, or returns and leaves a receipt. -/
theorem step_call (s : Sys X) (caller : ContractAddress) (transactionHash : Felt) (c : Call) :
    step P s (.call caller transactionHash c) = s ∨
    ∃ out t, Returns (execute P ⟨caller, s.now, transactionHash⟩ c) s.state out t ∧
      step P s (.call caller transactionHash c) =
        ⟨t, s.now, s.receipts ++ [⟨caller, transactionHash, c, out⟩]⟩ := by
  unfold step Returns
  dsimp only
  cases h : (execute P ⟨caller, s.now, transactionHash⟩ c).run s.state with
  | error e => exact Or.inl rfl
  | ok p => exact Or.inr ⟨p.1, p.2, rfl, rfl⟩

theorem receipts_step_call (s : Sys X) (caller : ContractAddress) (transactionHash : Felt)
    (c : Call) (out : List OpenNoteDeposit) :
    (step P s (.call caller transactionHash c)).receipts =
        s.receipts ++ [⟨caller, transactionHash, c, out⟩] ↔
      ∃ t, Returns (execute P ⟨caller, s.now, transactionHash⟩ c) s.state out t := by
  unfold step Returns
  dsimp only
  cases h : (execute P ⟨caller, s.now, transactionHash⟩ c).run s.state with
  | error e =>
    refine iff_of_false (fun heq => ?_) fun ⟨t, heq⟩ => by cases heq
    have hlength := congrArg List.length heq
    simp at hlength
  | ok r =>
    obtain ⟨deposits, u⟩ := r
    simp

/-- A property of the whole system holds in every state of a run when later times, changes of
the other contracts and returning calls keep it. -/
theorem run_induction {I : Sys X → Prop}
    (advance : ∀ s time, s.now.val ≤ time.val → I s → I { s with now := time })
    (interfere : ∀ s w, I s → I { s with state := { s.state with world := w } })
    (call : ∀ s caller transactionHash c out t,
      Executes P ⟨caller, s.now, transactionHash⟩ s.state t c out → I s →
      I ⟨t, s.now, s.receipts ++ [⟨caller, transactionHash, c, out⟩]⟩)
    {s : Sys X} (steps : List (Step X)) (h : I s) : I (run (step P) s steps) := by
  apply run_invariant _ steps h
  intro s a hs
  cases a with
  | advance time =>
    unfold step
    dsimp only
    split
    · exact advance s time ‹_› hs
    · exact hs
  | interfere f => exact interfere s _ hs
  | call caller transactionHash c =>
    rcases step_call (P := P) s caller transactionHash c with heq | ⟨out, t, hret, heq⟩
    · rw [heq]
      exact hs
    · rw [heq]
      exact call s caller transactionHash c out t (returns_execute hret) hs

end App20.Escrow
