import App20.Escrow.Safety
import App20.Escrow.Tickets

/-!
# The escrow among its tickets and tokens

The joint state of the escrow and of every contract it may call: claim tickets and lock
tickets, running their own code, and other tokens, whose code is a parameter. Everybody except
the escrow may call every contract at any time and deploy new ones. The platform of the escrow
is the one that dispatches its calls into this world.
-/

namespace App20.Escrow

open App20.Lib App20.Lib.Exec App20.Starknet

/-! ## The world -/

/-- The code of the contracts that are not tickets, over their storage `Y`. -/
structure TokenCode (Y : Type) where
  Args : Type
  construct : Args → Y
  balanceOf : (self account : ContractAddress) → Y → Option (U256 × Y)
  call : (self caller : ContractAddress) → TokenCall → Y → Option (Bool × Y)

inductive Contract (Y : Type) where
  | ticket (kind : TicketKind) (t : Ticket)
  | other (y : Y)

abbrev World (Y : Type) := ContractAddress → Option (Contract Y)

variable {Y : Type}

namespace World

def balanceOf (code : TokenCode Y) (token account : ContractAddress) (w : World Y) :
    Option (U256 × World Y) :=
  match w token with
  | some (.ticket _ t) => some (t.balances account, w)
  | some (.other y) => (code.balanceOf token account y).map fun (b, y) =>
      (b, Function.update w token (some (.other y)))
  | none => none

def call (code : TokenCode Y) (caller token : ContractAddress) (c : TokenCall) (w : World Y) :
    Option (Bool × World Y) :=
  match w token with
  | some (.ticket kind t) =>
    match kind.call t caller c with
    | .ok t' => some (true, Function.update w token (some (.ticket kind t')))
    | .error _ => none
  | some (.other y) => (code.call token caller c y).map fun (b, y) =>
      (b, Function.update w token (some (.other y)))
  | none => none

theorem call_ticket {code : TokenCode Y} {caller token : ContractAddress} {c : TokenCall}
    {w : World Y} {kind : TicketKind} {t t' : Ticket} (hw : w token = some (.ticket kind t))
    (hcall : kind.call t caller c = .ok t') :
    World.call code caller token c w =
      some (true, Function.update w token (some (.ticket kind t'))) := by
  unfold World.call
  rw [hw]
  dsimp only
  rw [hcall]

end World

/-! ## The network -/

/-- The escrow's address, the chain and its built-ins, the address that a deployment by the
escrow gets, and the ticket classes by their hashes. -/
structure Chain where
  escrow : ContractAddress
  chainId : Felt
  poseidonHashSpan : List Felt → Felt
  checkEcdsaSignature : Felt → Felt → Felt → Felt → Bool
  addressOf : Felt → Felt → List Felt → ContractAddress
  classOf : Felt → Option TicketKind

/-- A chain whose tokens run this code. -/
structure Network (Y : Type) extends Chain where
  code : TokenCode Y

namespace Network

def isFree (N : Network Y) (w : World Y) (address : ContractAddress) : Bool :=
  address ≠ 0 ∧ address ≠ N.escrow ∧ (w address).isNone

def deployTicket (N : Network Y) (kind : TicketKind) (address escrow pool : ContractAddress)
    (id : Felt) (w : World Y) : Option (World Y) :=
  match kind.constructor escrow pool id with
  | .ok t =>
    if N.isFree w address then some (Function.update w address (some (.ticket kind t))) else none
  | .error _ => none

def deploy (N : Network Y) (classHash salt : Felt) (calldata : List Felt) (w : World Y) :
    Option (ContractAddress × World Y) := do
  let kind ← N.classOf classHash
  match calldata with
  | [escrow, pool, id] =>
    let escrow ← tryInto (2 ^ 251) escrow
    let pool ← tryInto (2 ^ 251) pool
    let address := N.addressOf classHash salt calldata
    let w ← N.deployTicket kind address escrow pool id w
    return (address, w)
  | _ => none

def platform (N : Network Y) : Platform (World Y) where
  contractAddress := N.escrow
  chainId := N.chainId
  poseidonHashSpan := N.poseidonHashSpan
  checkEcdsaSignature := N.checkEcdsaSignature
  balanceOf := World.balanceOf N.code
  approve := fun token spender amount => World.call N.code N.escrow token (.approve spender amount)
  mint := fun token w => (World.call N.code N.escrow token .mint w).map Prod.snd
  burn := fun token w => (World.call N.code N.escrow token .burn w).map Prod.snd
  deploy := N.deploy

end Network

/-! ## Deployment and runs -/

/-- An escrow deployed with the two ticket classes and a pool other than itself. -/
structure Deployment (N : Network Y) where
  pool : ContractAddress
  ticketClassHash : Felt
  lockTicketClassHash : Felt
  pool_ne : pool ≠ N.escrow
  ticketClass : N.classOf ticketClassHash = some .claim
  lockTicketClass : N.classOf lockTicketClassHash = some .lock

inductive NetStep (N : Network Y) where
  | advance (time : U64)
  /-- Somebody deploys a token. -/
  | issue (address : ContractAddress) (args : N.code.Args)
  /-- Somebody deploys a contract of a ticket class. -/
  | issueTicket (address : ContractAddress) (kind : TicketKind) (escrow pool : ContractAddress)
      (id : Felt)
  /-- Somebody other than the escrow calls a token or a ticket. -/
  | token (caller token : ContractAddress) (c : TokenCall)
  /-- Somebody calls the escrow. -/
  | escrow (caller : ContractAddress) (transactionHash : Felt) (c : Call)

def NetStep.interference {N : Network Y} : NetStep N → World Y → World Y
  | .issue address args, w =>
    if N.isFree w address then Function.update w address (some (.other (N.code.construct args)))
    else w
  | .issueTicket address kind owner pool id, w =>
    (N.deployTicket kind address owner pool id w).getD w
  | .token caller address c, w =>
    if caller = N.escrow then w
    else ((World.call N.code caller address c w).map Prod.snd).getD w
  | _, w => w

def NetStep.toStep {N : Network Y} : NetStep N → Step (World Y)
  | .advance time => .advance time
  | .escrow caller transactionHash c => .call caller transactionHash c
  | a => .interfere a.interference

def netStep {N : Network Y} (s : Sys (World Y)) (a : NetStep N) : Sys (World Y) :=
  step N.platform s a.toStep

/-- The joint state after the steps; the run starts with no contract but the escrow. -/
def Deployment.reached {N : Network Y} (D : Deployment N) (now : U64) (steps : List (NetStep N)) :
    Sys (World Y) :=
  run netStep (Sys.initial D.pool D.ticketClassHash D.lockTicketClassHash (fun _ => none) now) steps

variable {N : Network Y}

/-- The runs of the network are runs of the escrow. -/
theorem Deployment.reached_eq (D : Deployment N) (now : U64) (steps : List (NetStep N)) :
    D.reached now steps = Escrow.reached N.platform D.pool D.ticketClassHash
      D.lockTicketClassHash (fun _ => none) now (steps.map NetStep.toStep) :=
  run_map (f := NetStep.toStep) (fun _ _ => rfl) _ _

theorem Deployment.sound (D : Deployment N) (now : U64) (steps : List (NetStep N)) :
    Sound (D.reached now steps) := by
  rw [D.reached_eq]
  exact sound_run _ _ _ _ _ _

/-- A step changes the other contracts or the time, is a call that reverts, or is one that
returns. -/
theorem netStep_cases (s : Sys (World Y)) (a : NetStep N) :
    ((∀ caller transactionHash c, a ≠ .escrow caller transactionHash c) ∧
      (netStep s a).state = { s.state with world := a.interference s.state.world }) ∨
    (∃ caller transactionHash c, a = .escrow caller transactionHash c ∧ (netStep s a = s ∨ ∃ out t,
        Executes N.platform ⟨caller, s.now, transactionHash⟩ s.state t c out ∧
        netStep s a = ⟨t, s.now, s.receipts ++ [⟨caller, transactionHash, c, out⟩]⟩)) := by
  cases a with
  | advance time =>
    refine Or.inl ⟨(fun _ _ _ heq => by cases heq), ?_⟩
    unfold netStep NetStep.toStep step
    dsimp only
    split <;> rfl
  | issue | issueTicket | token => exact Or.inl ⟨(fun _ _ _ heq => by cases heq), rfl⟩
  | escrow caller transactionHash c =>
    refine Or.inr ⟨caller, transactionHash, c, rfl, ?_⟩
    rcases step_call (P := N.platform) s caller transactionHash c with heq | ⟨out, t, hret, heq⟩
    · exact Or.inl heq
    · exact Or.inr ⟨out, t, returns_execute hret, heq⟩

/-- A property of the joint state holds in every state of a run when later times, steps of
others and returning calls to the escrow keep it. -/
theorem net_induction {I : Sys (World Y) → Prop}
    (advance : ∀ s time, s.now.val ≤ time.val → I s → I { s with now := time })
    (interfere : ∀ s (a : NetStep N), I s →
      I { s with state := { s.state with world := a.interference s.state.world } })
    (call : ∀ s caller transactionHash c out t,
      Executes N.platform ⟨caller, s.now, transactionHash⟩ s.state t c out → I s →
      I ⟨t, s.now, s.receipts ++ [⟨caller, transactionHash, c, out⟩]⟩) {s : Sys (World Y)}
    (steps : List (NetStep N)) (h : I s) : I (run netStep s steps) := by
  apply run_invariant _ steps h
  intro s a hs
  cases a with
  | advance time =>
    unfold netStep NetStep.toStep step
    dsimp only
    split
    · exact advance s time ‹_› hs
    · exact hs
  | issue address args => exact interfere s (.issue address args) hs
  | issueTicket address kind owner pool id =>
    exact interfere s (.issueTicket address kind owner pool id) hs
  | token caller address c => exact interfere s (.token caller address c) hs
  | escrow caller transactionHash c =>
    change I (step N.platform s (.call caller transactionHash c))
    rcases step_call (P := N.platform) s caller transactionHash c with heq | ⟨out, t, hret, heq⟩
    · rw [heq]
      exact hs
    · rw [heq]
      exact call s caller transactionHash c out t (returns_execute hret) hs

end App20.Escrow
