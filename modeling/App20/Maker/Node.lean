import App20.Lib.Run
import App20.Maker.Reservations
import App20.Maker.Settlement

/-!
# A maker node

The node as a whole: its store, the fills and lock operations in flight, and what it has asked of
its wallet. Operations start at any time and take turns in any order; a restart drops all that are
in flight and reads the store from its journal.
-/

namespace App20.Maker

open App20.Lib App20.Domain App20.Intents
open App20.Reservation (QuarantineReason)

/-! ## State -/

/-- A settlement that was handed to the wallet. -/
structure Submission where
  lockId : Text
  action : SettlementAction
  attempt : Int

inductive FillPhase where
  | begun
  | called
  | answered (transactionHash : Text)
  | failing
  | done
  deriving DecidableEq

structure Fill where
  request : MakerFillRequest
  reservationId : Text
  now : Int
  phase : FillPhase

/-- `filled` lists the reservations that the wallet was asked to fill, and `outstanding` the
settlements handed to the wallet whose outcome the node does not know. -/
structure Node where
  journal : Journal Books
  fills : List Fill
  flows : List Flow
  filled : List Text
  outstanding : List Submission

def Node.empty : Node := ⟨⟨.empty, .empty, false⟩, [], [], [], []⟩

/-! ## Operations on reservations -/

inductive ReservationOp where
  | signQuote (quote : UnsignedSolverQuote) (canonical : Text) (signer : Except Text Text)
  | signQuoteV2 (quote : UnsignedSolverQuoteV2) (canonical : Text) (signer : Except Text Text)
  | select (reservationId intentDigest : Text)
  | release (reservationId reason : Text)
  | bind (target : MakerReconciliationTarget)
  | read (target : MakerReconciliationTarget)
  | quarantine (input : AuthorityRequest) (reason : QuarantineReason)
  | reconcile (input : AuthorityRequest) (settlementTransactionHash : Option Text)

def discard {α : Type} (m : BooksM α) : BooksM Unit := do
  let _ ← m

/-- The checks of an operation, and the program of its transaction. -/
def ReservationOp.program (config : Config) (now : Int) :
    ReservationOp → Except MakerError (BooksM Unit)
  | .signQuote quote canonical signer => do
    let _ ← requireTimestamp now "now"
    return discard (Maker.signQuote config quote canonical signer now)
  | .signQuoteV2 quote canonical signer => do
    let _ ← requireTimestamp now "now"
    return discard (Maker.signQuoteV2 config quote canonical signer now)
  | .select reservationId intentDigest =>
    return discard (Maker.select reservationId intentDigest now)
  | .release reservationId reason => return discard (Maker.release reservationId now reason)
  | .bind target => do
    let target ← canonicalReconciliationTarget target
    let _ ← requireTimestamp now "now"
    return discard (bindSettlement config target now)
  | .read target => do
    let target ← canonicalReconciliationTarget target
    let _ ← requireTimestamp now "now"
    return discard (readSnapshot config target now)
  | .quarantine input reason => do
    let input ← canonicalAuthorityRequest "authority quarantine" input
    let _ ← requireTimestamp now "now"
    return discard (quarantineForAuthority config input reason now)
  | .reconcile input settlementTransactionHash => do
    let input ← canonicalAuthorityRequest "terminal reconciliation" input
    let _ ← requireTimestamp now "now"
    return discard (reconcileTerminal config input settlementTransactionHash now)

namespace Node

/-- A transaction of a reservation operation that is not followed by anything. -/
def act (config : Config) (w : Node) (op : ReservationOp) (now : Int) (append : Append) : Node :=
  match op.program config now with
  | .error _ => w
  | .ok m => { w with journal := (transaction m append w.journal).2 }

def reserve (config : Config) (w : Node) (request : MakerQuoteRequest) (answers : ReserveAnswers)
    (now : Int) (append : Append) : Node :=
  match checkRequest config request now with
  | .error _ => w
  | .ok rfqDigest =>
    { w with
      journal :=
        (transaction (reserveDraft config request rfqDigest answers now) append w.journal).2 }

/-! ## Fills -/

/-- `fill` up to its call of the wallet. -/
def fill (w : Node) (request : MakerFillRequest) (attemptId : Text) (now : Int) (append : Append) :
    Node :=
  match requireTimestamp now "now" with
  | .error _ => w
  | .ok _ =>
    match transaction (beginFill request attemptId now) append w.journal with
    | (.ok (.begun record), journal) =>
      { w with
        journal
        fills := w.fills ++ [⟨request, record.reservation.reservationId, now, .begun⟩] }
    | (_, journal) => { w with journal }

/-- The wallet is asked to fill. -/
def invokeFill (w : Node) (i : Nat) : Node :=
  match w.fills[i]? with
  | none => w
  | some f =>
    match f.phase with
    | .begun =>
      { w with
        fills := w.fills.set i { f with phase := .called }
        filled := w.filled ++ [f.reservationId] }
    | _ => w

/-- The wallet answers with a transaction, or fails. -/
def answerFill (w : Node) (i : Nat) (answer : Option Text) : Node :=
  match w.fills[i]? with
  | none => w
  | some f =>
    match f.phase, answer with
    | .called, some transactionHash =>
      { w with fills := w.fills.set i { f with phase := .answered transactionHash } }
    | .called, none => { w with fills := w.fills.set i { f with phase := .failing } }
    | _, _ => w

/-- The transaction after the answer, or after a failure. -/
def commitFill (w : Node) (i : Nat) (append : Append) : Node :=
  match w.fills[i]? with
  | none => w
  | some f =>
    match f.phase with
    | .answered transactionHash =>
      match transaction (completeFill f.reservationId transactionHash f.now) append w.journal with
      | (.ok _, journal) =>
        { w with journal, fills := w.fills.set i { f with phase := .done } }
      | (.error _, journal) =>
        { w with journal, fills := w.fills.set i { f with phase := .failing } }
    | .failing =>
      { w with
        journal := (transaction (failFill f.reservationId f.now) append w.journal).2
        fills := w.fills.set i { f with phase := .done } }
    | _ => w

/-! ## Operations on locks -/

/-- An operation on locks starts. -/
def start (w : Node) (f : Flow) : Node := { w with flows := w.flows ++ [f] }

/-- `quoteV3` up to its call of the wallet. -/
def quote (config : Config) (w : Node) (rfq : PrivateRfqV2) (answers : QuoteAnswers) (now : Int)
    (append : Append) : Node :=
  match checkRfq config rfq now with
  | .error _ | .ok (.inl _) => w
  | .ok (.inr rfqDigest) =>
    match lockTransaction (acquireLock config rfq rfqDigest answers now) append w.journal with
    | (.ok (.acquired record _), journal) =>
      { w with journal }.start ⟨record.lockId, now, .release, [], .locking record⟩
    | (_, journal) => { w with journal }

def settlementDue (now : Int) (r : StoredLock) : Bool :=
  ¬ r.state.Terminal ∧
    (r.state = .settling ∨ r.state = .reconcilePending ∨ r.state = .settlementUnknown ∨
      r.expiry ≤ now) ∧ ¬ r.nextReconciliationAt.any fun n => decide (now < n)

def settleExpired (w : Node) (now : Int) : Node :=
  match requireTimestamp now "now" with
  | .error _ => w
  | .ok _ =>
    let due := (w.journal.memory.locks.entries.filter (settlementDue now)).map StoredLock.lockId
    w.start ⟨[], now, .settle, due, .next⟩

/-- `recoverAfterRestart` up to its list of locks. -/
def recover (w : Node) (now : Int) (append : Append) : Node :=
  match requireTimestamp now "now" with
  | .error _ => w
  | .ok _ =>
    match transaction (recoverDraft now) append w.journal with
    | (.ok _, journal) => { w with journal }.start ⟨[], now, .recover, [], .listing⟩
    | (.error _, journal) => { w with journal }

/-- `resolveLock`; the state that is expected is always that of quarantine. -/
def resolve (w : Node) (lockId reason : Text) (now : Int) : Node :=
  match (do
    let _ ← requireTimestamp now "now"
    let lockId ← requireFeltText lockId "lockId"
    let reason ← requireText reason "lock resolution reason"
    return (lockId, reason)) with
  | .error _ => w
  | .ok (lockId, reason) =>
    w.start ⟨lockId, now, .release, [], .commit (.resolve reason) .finish⟩

/-- `reconcileAuthoritativeTerminal` on a lock, up to its reading of the chain. -/
def reconcileLock (w : Node) (input : V3TerminalRequest) (now : Int) : Node :=
  match canonicalV3Request input now with
  | .error _ => w
  | .ok request =>
    w.start ⟨request.target.lockId, now, .release, [], beginTerminal w.journal.memory.locks request⟩

/-! What becomes known of the settlements in flight. -/

/-- A settlement is known to have reverted. -/
def knowReverted (w : Node) (lockId : Text) (attempt : Int) : Node :=
  { w with
    outstanding := w.outstanding.filter fun s => ¬ (s.lockId = lockId ∧ s.attempt = attempt) }

def knowComplete (w : Node) (lockId : Text) (chain : OnChainLock) : Node :=
  { w with
    outstanding := w.outstanding.filter fun s =>
      ¬ (s.lockId = lockId ∧ settlementActionComplete s.action chain = true) }

def knowResolved (w : Node) (lockId : Text) : Node :=
  { w with outstanding := w.outstanding.filter fun s => s.lockId ≠ lockId }

/-- What the node learns from an answer: that its wallet or a receipt reports a revert, or what the
chain says of a lock that is bound to its record. -/
def learn (w : Node) (f : Flow) (a : Answer) : Node :=
  match f.phase, a with
  | .handed _ _ attempt, .reverted => w.knowReverted f.lockId attempt
  | .receipt record, .receipt (some r) =>
    match record.settlementAttempt, receiptRead record (some r) with
    | some a, .unknown _ (some .reverted) => w.knowReverted f.lockId a.attempt
    | _, _ => w
  | .unknown record _, .chain chain | .resetting record, .chain chain
  | .reconciling _ record, .chain chain =>
    match bindChain record chain with
    | .bound chain => w.knowComplete f.lockId chain
    | .contradicted | .unread => w
  | _, _ => w

/-- What the node learns when it runs a transaction: the operator's resolution, and the actions
that are complete when a terminal reconciliation is recorded. -/
def learnCommitted (w : Node) (f : Flow) (tx : LockTx)
    (result : Except (Option MakerError) (Option StoredLock)) : Node :=
  match tx, result with
  | .resolve _, .ok _ => w.knowResolved f.lockId
  | .terminal _ _ chain, _ => w.knowComplete f.lockId chain
  | _, _ => w

/-- An operation goes on to the next lock of its list. -/
def advance (w : Node) (i : Nat) : Node :=
  match w.flows[i]? with
  | none => w
  | some f => { w with flows := w.flows.set i (f.advance w.journal.memory.locks) }

def answer (w : Node) (i : Nat) (a : Answer) : Node :=
  match w.flows[i]? with
  | none => w
  | some f =>
    { (w.learn f a) with flows := w.flows.set i (f.answer w.journal.memory.locks a) }

/-- A settlement is handed to the wallet. -/
def hand (w : Node) (i : Nat) : Node :=
  match w.flows[i]? with
  | none => w
  | some f =>
    match f.phase with
    | .handing _ action _ attempt =>
      { w with
        flows := w.flows.set i f.hand
        outstanding := w.outstanding ++ [⟨f.lockId, action, attempt⟩] }
    | _ => w

/-- The transaction of an operation runs. -/
def commit (w : Node) (i : Nat) (append : Append) : Node :=
  match w.flows[i]? with
  | none => w
  | some f =>
    match f.phase with
    | .commit tx after =>
      let (result, journal) := lockTransaction (tx.draft f.lockId f.now) append w.journal
      { (w.learnCommitted f tx result) with
        journal, flows := w.flows.set i (f.committed after result) }
    | _ => w

/-- The process stops and opens its store again. -/
def restart (w : Node) : Node :=
  { w with journal := w.journal.reopen Books.read, fills := [], flows := [] }

end Node

/-! ## Steps -/

inductive Step where
  | restart
  | reserve (request : MakerQuoteRequest) (answers : ReserveAnswers) (now : Int) (append : Append)
  | act (op : ReservationOp) (now : Int) (append : Append)
  | fill (request : MakerFillRequest) (attemptId : Text) (now : Int) (append : Append)
  | invokeFill (i : Nat)
  | answerFill (i : Nat) (answer : Option Text)
  | commitFill (i : Nat) (append : Append)
  | quote (rfq : PrivateRfqV2) (answers : QuoteAnswers) (now : Int) (append : Append)
  | settleExpired (now : Int)
  | recover (now : Int) (append : Append)
  | resolve (lockId reason : Text) (now : Int)
  | reconcileLock (input : V3TerminalRequest) (now : Int)
  | advance (i : Nat)
  | answer (i : Nat) (a : Answer)
  | hand (i : Nat)
  | commit (i : Nat) (append : Append)

def step (config : Config) (w : Node) : Step → Node
  | .restart => w.restart
  | .reserve request answers now append => w.reserve config request answers now append
  | .act op now append => w.act config op now append
  | .fill request attemptId now append => w.fill request attemptId now append
  | .invokeFill i => w.invokeFill i
  | .answerFill i answer => w.answerFill i answer
  | .commitFill i append => w.commitFill i append
  | .quote rfq answers now append => w.quote config rfq answers now append
  | .settleExpired now => w.settleExpired now
  | .recover now append => w.recover now append
  | .resolve lockId reason now => w.resolve lockId reason now
  | .reconcileLock input now => w.reconcileLock input now
  | .advance i => w.advance i
  | .answer i a => w.answer i a
  | .hand i => w.hand i
  | .commit i append => w.commit i append

def reached (config : Config) (steps : List Step) : Node := run (step config) .empty steps

/-! ## The store after a step -/

namespace Node

variable {config : Config} {w : Node} {now : Int} {append : Append} {i : Nat}

theorem fill_journal {request : MakerFillRequest} {attemptId : Text} :
    (w.fill request attemptId now append).journal = w.journal ∨
      (w.fill request attemptId now append).journal =
        (transaction (beginFill request attemptId now) append w.journal).2 := by
  unfold fill
  split
  · exact Or.inl rfl
  · right
    split <;>
    · rename_i h
      rw [h]

theorem invokeFill_journal : (w.invokeFill i).journal = w.journal := by
  unfold invokeFill
  split
  · rfl
  · split <;> rfl

theorem answerFill_journal {answer : Option Text} : (w.answerFill i answer).journal = w.journal := by
  unfold answerFill
  split
  · rfl
  · split <;> rfl

theorem commitFill_journal :
    (w.commitFill i append).journal = w.journal ∨ ∃ f : Fill,
      (∃ transactionHash, (w.commitFill i append).journal =
        (transaction (completeFill f.reservationId transactionHash f.now) append w.journal).2) ∨
      (w.commitFill i append).journal =
        (transaction (failFill f.reservationId f.now) append w.journal).2 := by
  unfold commitFill
  split
  · exact Or.inl rfl
  · rename_i f hf
    split
    · rename_i transactionHash hphase
      refine Or.inr ⟨f, Or.inl ⟨transactionHash, ?_⟩⟩
      split <;>
      · rename_i h
        rw [h]
    · exact Or.inr ⟨f, Or.inr rfl⟩
    · exact Or.inl rfl

theorem quote_journal {rfq : PrivateRfqV2} {answers : QuoteAnswers} :
    (w.quote config rfq answers now append).journal = w.journal ∨ ∃ rfqDigest,
      (w.quote config rfq answers now append).journal =
        (lockTransaction (acquireLock config rfq rfqDigest answers now) append w.journal).2 := by
  unfold quote
  split
  · exact Or.inl rfl
  · exact Or.inl rfl
  · rename_i rfqDigest _
    refine Or.inr ⟨rfqDigest, ?_⟩
    split
    · rename_i h
      rw [h]
      rfl
    · rename_i h
      rw [h]

theorem settleExpired_journal : (w.settleExpired now).journal = w.journal := by
  unfold settleExpired
  split <;> rfl

theorem recover_journal :
    (w.recover now append).journal = w.journal ∨
      (w.recover now append).journal = (transaction (recoverDraft now) append w.journal).2 := by
  unfold recover
  split
  · exact Or.inl rfl
  · right
    split
    · rename_i h
      rw [h]
      rfl
    · rename_i h
      rw [h]

theorem resolve_journal {lockId reason : Text} :
    (w.resolve lockId reason now).journal = w.journal := by
  unfold resolve
  split <;> rfl

theorem reconcileLock_journal {input : V3TerminalRequest} :
    (w.reconcileLock input now).journal = w.journal := by
  unfold reconcileLock
  split <;> rfl

theorem advance_journal : (w.advance i).journal = w.journal := by
  unfold advance
  split <;> rfl

/-- Learning changes nothing but the submissions that are outstanding. -/
theorem learn_eq (w : Node) (f : Flow) (a : Answer) :
    ∃ outstanding, w.learn f a = { w with outstanding } := by
  unfold learn
  split
  · exact ⟨_, rfl⟩
  · split <;> exact ⟨_, rfl⟩
  · split <;> exact ⟨_, rfl⟩
  · split <;> exact ⟨_, rfl⟩
  · split <;> exact ⟨_, rfl⟩
  · exact ⟨_, rfl⟩

theorem learnCommitted_eq (w : Node) (f : Flow) (tx : LockTx)
    (result : Except (Option MakerError) (Option StoredLock)) :
    ∃ outstanding, w.learnCommitted f tx result = { w with outstanding } := by
  unfold learnCommitted
  split <;> exact ⟨_, rfl⟩

theorem answer_journal {a : Answer} : (w.answer i a).journal = w.journal := by
  unfold answer
  split
  · rfl
  · rename_i f _
    obtain ⟨outstanding, h⟩ := w.learn_eq f a
    rw [h]

theorem hand_journal : (w.hand i).journal = w.journal := by
  unfold hand
  split
  · rfl
  · split <;> rfl

theorem commit_journal :
    (w.commit i append).journal = w.journal ∨ ∃ (f : Flow) (tx : LockTx) (after : After),
      w.flows[i]? = some f ∧ f.phase = .commit tx after ∧ (w.commit i append).journal =
        (lockTransaction (tx.draft f.lockId f.now) append w.journal).2 := by
  unfold commit
  split
  · exact Or.inl rfl
  · rename_i f hf
    split
    · rename_i tx after hphase
      exact Or.inr ⟨f, tx, after, hf, hphase, rfl⟩
    · exact Or.inl rfl

end Node

end App20.Maker
