import App20.Confidential.Review
import App20.Lib.Sections

/-!
# The client of a confidential escrow

The calls of the client that hold the journal's lock, as sections: every read of the chain, every
call of the wallet or the prover, every load and every save of the journal is a place where the
call may fail or the process may end.
-/

namespace App20.Confidential

open App20.Lib App20.Domain

/-! ## The journal -/

inductive AttemptMode where
  | confidential (mode : ConfidentialMode)
  | fundA
  | fundB
  deriving DecidableEq

structure ConfidentialAttempt where
  id : Text
  mode : AttemptMode
  hash : Option Text

structure ConfidentialJournalState where
  schema : Text
  scope : Text
  pending : Option ConfidentialAttempt
  confirmed : List ConfidentialAttempt

def confidentialJournalSchema : Text := "app20/confidential-journal/v1".toList

def scopeOf (a : ConfidentialAgreement) : Text :=
  a.chainId ++ "/".toList ++ a.address ++ "/".toList ++ a.commitment

def emptyJournal (a : ConfidentialAgreement) : ConfidentialJournalState :=
  ⟨confidentialJournalSchema, scopeOf a, none, []⟩

def checkAttempt (attempt : ConfidentialAttempt) : Except String Unit := do
  discard (confidentialFelt attempt.id true)
  match attempt.hash with
  | none => return ()
  | some hash => discard (confidentialFelt hash true)

def checkJournal (a : ConfidentialAgreement) (stored : Option ConfidentialJournalState) :
    Except String ConfidentialJournalState := do
  let state := stored.getD (emptyJournal a)
  throwIf (state.schema ≠ confidentialJournalSchema ∨ state.scope ≠ scopeOf a)
    "Journal belongs to another confidential session."
  (state.confirmed ++ state.pending.toList).forM checkAttempt
  return state

/-! ## Calls -/

/-- What the client reads of a receipt. -/
structure TransactionReceipt where
  isSuccess : Bool
  isReverted : Bool

/-- What `inspectConfidentialDeployment` returns, once the chain and the contracts are those of the
agreement. -/
structure Inspection where
  block : Nat
  timestamp : Int
  settled : Bool

structure PoolNote where
  amount : Nat
  isOpen : Bool

structure BlockHeader where
  blockNumber : Text
  blockHash : Option Text

structure ConfidentialProof where
  data : Option Text
  output : List Text
  proofFacts : List Text

structure Payment where
  token : Text
  recipient : Text
  amount : Nat

/-- What is handed to the relayer: a proved operation, or a payment of the caller's wallet. -/
inductive Submission where
  | proved (calldata : List Text) (proof : ConfidentialProof)
  | payment (p : Payment)

inductive Query where
  | load
  | save (state : ConfidentialJournalState)
  | receipt (hash : Text)
  | wait (hash : Text)
  | submit (id : Text) (mode : AttemptMode) (submission : Submission)
  | inspect
  | publicKey
  | notes
  | build (mode : ConfidentialMode) (total : Nat)
  | latestBlock
  | prove (invocation : ConfidentialInvocation) (block : Option Text)
  | proofValidity

/-- What the calls return. -/
def Query.Answer : Query → Type
  | .load => Option ConfidentialJournalState
  | .save _ => Unit
  | .receipt _ => TransactionReceipt
  | .wait _ => Unit
  | .submit .. => Text
  | .inspect => Inspection
  | .publicKey => List Text
  | .notes => List (Text × List PoolNote)
  | .build .. => ConfidentialInvocation
  | .latestBlock => BlockHeader
  | .prove .. => ConfidentialProof
  | .proofValidity => List Text

abbrev ClientSection := Section Query Query.Answer

/-! ## The client -/

/-- A client's options, with what it asks of its libraries: the public key of the viewing key and
the check of a proof's envelope. -/
structure Client where
  platform : Platform
  verify : Verify
  agreement : ConfidentialAgreement
  viewingKey : Int
  proofOnly : Bool
  mainnet : Bool
  starkKey : Text
  verifyProof : ConfidentialProof → ConfidentialMode → Except String Submission

inductive EscrowStatus where
  | setup | funding | ready | settled | refundable | closed
  deriving DecidableEq

structure ConfidentialSnapshot where
  inspection : Inspection
  registered : Bool
  balanceA : Nat
  balanceB : Nat
  status : EscrowStatus
  pending : Option ConfidentialAttempt

namespace Client

variable (c : Client)

def request (q : Query) : ClientSection q.Answer := Section.request q

def journal : ClientSection ConfidentialJournalState := do
  let stored ← request .load
  Section.ofExcept (checkJournal c.agreement stored)

def balance (notes : List (Text × List PoolNote)) (token : Text) : Except String Nat := do
  let matching ← notes.filterM fun entry => sameFelt entry.1 token
  let all := matching.flatMap Prod.snd
  throwIf (all.any PoolNote.isOpen = true) "Unexpected OPEN note in confidential escrow."
  return (all.map PoolNote.amount).sum

def statusOf (inspection : Inspection) (registered : Bool) (balanceA balanceB : Nat) :
    EscrowStatus :=
  if c.agreement.deadline ≤ inspection.timestamp ∧ (balanceA ≠ 0 ∨ balanceB ≠ 0) then .refundable
  else if inspection.settled then .settled
  else if c.agreement.deadline ≤ inspection.timestamp then .closed
  else if registered = false then .setup
  else if bigIntOf c.agreement.terms.amountA ≤ balanceA ∧
      bigIntOf c.agreement.terms.amountB ≤ balanceB then .ready
  else .funding

def discoverNotes (registered : Bool) : ClientSection (List (Text × List PoolNote)) :=
  if registered = true then request .notes else pure []

def snapshot : ClientSection ConfidentialSnapshot := do
  let inspection ← request .inspect
  let keys : List Text ← request .publicKey
  Section.throwIf (keys.length ≠ 1) "Invalid pool registration response."
  let unregistered ← Section.ofExcept (sameFelt (keys.headD []) "0".toList)
  let ours ← Section.ofExcept (sameFelt (keys.headD []) c.starkKey)
  Section.throwIf (unregistered = false ∧ ours = false)
    "Escrow viewing material does not match its registered key."
  let notes ← discoverNotes (!unregistered)
  let balanceA ← Section.ofExcept (balance notes c.agreement.terms.tokenA)
  let balanceB ← Section.ofExcept (balance notes c.agreement.terms.tokenB)
  let state ← c.journal
  return ⟨inspection, !unregistered, balanceA, balanceB,
    c.statusOf inspection (!unregistered) balanceA balanceB, state.pending⟩

def checkTime (mode : ConfidentialMode) (state : Inspection) : Except String Unit := do
  throwIf ((mode = .setup ∨ mode = .settle) ∧
    (state.settled = true ∨ c.agreement.deadline ≤ state.timestamp)) "Escrow is settled or expired."
  throwIf ((mode = .refundA ∨ mode = .refundB) ∧ state.timestamp < c.agreement.deadline)
    "Refund is available after the agreed deadline."

/-- What a refund returns; the other operations do not look at it. -/
def refundable (mode : ConfidentialMode) (state : ConfidentialSnapshot) : Nat :=
  match mode with
  | .refundA => state.balanceA
  | .refundB => state.balanceB
  | _ => 0

def prepare (mode : ConfidentialMode) : ClientSection ConfidentialPrepared := do
  let state ← c.snapshot
  Section.throwIf (state.pending.isSome = true) "Reconcile the pending submission first."
  Section.ofExcept (c.checkTime mode state.inspection)
  Section.throwIf (mode ≠ .setup ∧ state.registered = false)
    "Both parties must register the escrow before funding."
  Section.throwIf (mode = .setup ∧ state.registered = true) "Escrow is already registered."
  Section.throwIf (mode = .settle ∧ state.status ≠ .ready)
    "Both agreed assets must be funded before settlement."
  Section.throwIf ((mode = .refundA ∨ mode = .refundB) ∧ refundable mode state = 0)
    "No refundable balance for this party."
  let invocation ← request (.build mode (refundable mode state))
  let inner ← Section.ofExcept (confidentialInner invocation.calldata)
  let result : ConfidentialPrepared := ⟨c.agreement, mode, invocation,
    confidentialDigest c.platform c.agreement mode inner⟩
  discard (Section.ofExcept (reviewConfidentialOperation c.platform result c.viewingKey))
  return result

/-- A settlement that succeeded has settled the escrow. -/
def checkSettled (mode : AttemptMode) (receipt : TransactionReceipt) : ClientSection Unit :=
  if receipt.isSuccess = true ∧ mode = .confidential .settle then do
    let inspection : Inspection ← request .inspect
    Section.throwIf (inspection.settled = false) "Successful receipt did not settle this escrow."
  else pure ()

def reconcileUnlocked : ClientSection Unit := do
  let state ← c.journal
  match state.pending with
  | none => return ()
  | some ⟨_, _, none⟩ =>
    .throw ("Unknown submission outcome. Inspect the relayer account before repairing the " ++
      "journal; do not retry blindly.")
  | some ⟨id, mode, some hash⟩ =>
    let receipt : TransactionReceipt ← request (.receipt hash)
    Section.throwIf (receipt.isSuccess = false ∧ receipt.isReverted = false)
      "Submission is still pending."
    checkSettled mode receipt
    let confirmed := if receipt.isSuccess = true then state.confirmed ++ [⟨id, mode, some hash⟩]
      else state.confirmed
    request (.save { state with pending := none, confirmed := confirmed })

def broadcast (mode : AttemptMode) (id : Text) (submission : Submission) : ClientSection Text := do
  Section.throwIf (c.proofOnly = true) "Proof rehearsal cannot submit transactions."
  c.reconcileUnlocked
  let state ← c.journal
  request (.save { state with pending := some ⟨id, mode, none⟩ })
  let transactionHash : Text ← request (.submit id mode submission)
  let hash ← Section.ofExcept (confidentialFelt transactionHash true)
  request (.save { state with pending := some ⟨id, mode, some hash⟩ })
  request (.wait hash)
  c.reconcileUnlocked
  let receipt : TransactionReceipt ← request (.receipt transactionHash)
  Section.throwIf (receipt.isReverted = true)
    "Confidential operation reverted; inspect current balances before retrying."
  return transactionHash

/-- The operation is normalised to the client's own agreement. -/
def sameAgreement (prepared : ConfidentialPrepared) : Except String Unit := do
  let a ← normalizeConfidentialAgreement c.platform prepared.agreement
  throwIf (a ≠ c.agreement) "Operation belongs to another escrow configuration."

/-- `BigInt(current.block) > BigInt(number) + BigInt(validity)`, or a length without a meaning. -/
def proofExpired (validity : List Text) (number : Text) (block : Nat) : Prop :=
  validity.length ≠ 1 ∨ (parseBigInt (validity.headD [])).getD 0 ≤ 0 ∨
    (parseBigInt number).getD 0 + (parseBigInt (validity.headD [])).getD 0 < (block : Int)
  deriving Decidable

def checkProvingBlock (proof : ConfidentialProof) (header : BlockHeader) (current : Inspection) :
    ClientSection Unit := do
  let sameNumber ← Section.ofExcept (sameFelt (proof.proofFacts.getD 4 []) header.blockNumber)
  let sameHash ← Section.ofExcept (sameFelt (proof.proofFacts.getD 5 []) (header.blockHash.getD []))
  Section.throwIf (sameNumber = false ∨ sameHash = false) "Proof refers to another proving block."
  let validity : List Text ← request .proofValidity
  Section.throwIf (proofExpired validity header.blockNumber current.block)
    "Proof expired before rehearsal completed."

/-- On mainnet the proof is pinned to a recent accepted block. -/
def provingBlock : ClientSection (Option BlockHeader) :=
  if c.mainnet = true then do
    let header : BlockHeader ← request .latestBlock
    return some header
  else pure none

def checkPinned (proof : ConfidentialProof) (header : Option BlockHeader) (current : Inspection) :
    ClientSection Unit :=
  match header with
  | none => pure ()
  | some header => checkProvingBlock proof header current

def proveUnlocked (prepared : ConfidentialPrepared) (approvals : List ConfidentialApproval) :
    ClientSection Submission := do
  Section.ofExcept (c.sameAgreement prepared)
  c.reconcileUnlocked
  let before ← request .inspect
  Section.ofExcept (c.checkTime prepared.mode before)
  let invocation ← Section.ofExcept
    (authorizeConfidentialOperation c.platform c.verify prepared c.viewingKey approvals)
  let header ← c.provingBlock
  Section.throwIf (header.any (fun h => h.blockHash.isNone) = true)
    "An accepted mainnet proving block is required."
  let proof ← request (.prove invocation (header.bind BlockHeader.blockHash))
  let submission ← Section.ofExcept (c.verifyProof proof prepared.mode)
  let current ← request .inspect
  checkPinned proof header current
  Section.ofExcept (c.checkTime prepared.mode current)
  return submission

def execute (prepared : ConfidentialPrepared) (approvals : List ConfidentialApproval) :
    ClientSection Text := do
  Section.throwIf (c.proofOnly = true) "Proof rehearsal cannot submit transactions."
  let submission ← c.proveUnlocked prepared approvals
  c.broadcast (.confidential prepared.mode) prepared.digest submission

def funding (role : ConfidentialRole) : ClientSection Payment := do
  let state ← c.snapshot
  Section.ofExcept (c.checkTime .settle state.inspection)
  Section.throwIf (state.registered = false ∨ state.pending.isSome = true)
    "Registered escrow with no pending submission required."
  let terms := c.agreement.terms
  let agreed := bigIntOf (match role with | .a => terms.amountA | .b => terms.amountB)
  let balance := match role with | .a => state.balanceA | .b => state.balanceB
  Section.throwIf (agreed ≤ balance) "This side is already funded."
  return ⟨match role with | .a => terms.tokenA | .b => terms.tokenB, c.agreement.address,
    agreed - balance⟩

def fundingMode : ConfidentialRole → AttemptMode
  | .a => .fundA
  | .b => .fundB

def fund (role : ConfidentialRole) : ClientSection Text := do
  Section.throwIf (c.proofOnly = true) "Proof rehearsal cannot fund an escrow."
  c.reconcileUnlocked
  let payment ← c.funding role
  c.broadcast (fundingMode role) (poseidon c.platform [feltOf c.agreement.commitment,
    match role with | .a => 0 | .b => 1]) (.payment payment)

/-- The calls of a client that take the lock. -/
inductive Operation where
  | reconcile
  | prepare (mode : ConfidentialMode)
  | prove (prepared : ConfidentialPrepared) (approvals : List ConfidentialApproval)
  | execute (prepared : ConfidentialPrepared) (approvals : List ConfidentialApproval)
  | fund (role : ConfidentialRole)

def Operation.program : Operation → ClientSection Unit
  | .reconcile => c.reconcileUnlocked
  | .prepare mode => (c.prepare mode).forget
  | .prove prepared approvals => (c.proveUnlocked prepared approvals).forget
  | .execute prepared approvals => (c.execute prepared approvals).forget
  | .fund role => (c.fund role).forget

end Client

end App20.Confidential
