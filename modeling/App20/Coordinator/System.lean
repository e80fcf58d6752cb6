import App20.Coordinator.Releases
import App20.Coordinator.Takes
import App20.Lib.Run

/-!
# The coordinator at work

The serialized parts of all operations take turns. An operation that waits for makers is a task: its
parts are steps of their own, and between them any other operation may come. Any waiting part may be
next, in particular the one that has waited longest.
-/

namespace App20.Coordinator

open App20.Lib App20.Domain
open App20.Intents (Hash)

/-- What the coordinator is given once. -/
structure Config where
  localeCompare : Text → Text → Ordering
  sha256 : Hash
  sameWire : Json → Json → Bool
  limits : Limits

/-! ## Operations in one part -/

inductive V3Operation where
  /-- The clock is read once more for the admission. -/
  | begin (input : V3RequestInput) (now : Int)
  | recordQuote (rfqDigest makerId : Text) (quote : Json) (quoteDigest : Text)
  | recordRefusal (rfqDigest makerId : Text) (code : RefusalCode) (reason : Text)
      (state : RefusalState)
  | completeFanout (rfqDigest : Text)
  | journalTranscript (rfqDigest transcriptDigest : Text)
  | prepareTake (input : TakeInput) (attemptId : Text)
  | markTakeUnknown (input : TakeInput) (attemptId : Text)
  | abandonTake (input : TakeInput) (attemptId : Text)
  | observeTaken (input : TakeInput) (attemptId : Text)
  | markTakeAbsent (input : TakeInput) (attemptId : Text)

inductive Operation where
  | beginRequest (input : RequestInput)
  | markFanoutRefused (intentDigest makerId : Text)
  | completeRequestFanout (intentDigest : Text)
  | beginSelection (intentDigest : Text) (input : PendingSelection)
  | confirmSelection (intentDigest : Text) (input : Selection)
  | quarantineAuthority (input : Deal) (revision : Int) (reason : Text)
  | authorizeFundingTicket (input : Deal) (attemptId : Text) (terms : TicketTerms)
  | persistFundingTicket (input : Deal) (attemptId : Text) (terms : SettlementTerms)
  | prepareFunding (input : Deal) (attemptId : Text) (terms : SettlementTerms)
  | markFundingUnknown (input : Deal) (attemptId : Text)
  /-- `resolveFundingReverted` is disabled. -/
  | resolveFundingReverted
  | abandonFunding (input : Deal) (attemptId : Text) (terms : SettlementTerms)
  | observeFunded (input : Deal) (attemptId : Text)
  | bindDeal (input : Deal)
  | acquireReleaseLease (input : Binding) (releaseLeaseId : Text) (now : Int)
  | observeFundedDuringRelease (input : Binding) (releaseLeaseId : Text)
  | terminalize (input : Deal) (outcome : TerminalOutcome)
  | v3 (operation : V3Operation)

namespace Authority

variable (config : Config)

def applyV3 (a : Authority) : V3Operation → Except String (Outcome V3Request)
  | .begin input now => a.beginV3Request config.localeCompare config.limits input now
  | .recordQuote rfqDigest makerId quote quoteDigest =>
    a.recordV3Quote config.sha256 config.sameWire rfqDigest makerId quote quoteDigest
  | .recordRefusal rfqDigest makerId code reason state =>
    a.recordV3Refusal config.sha256 rfqDigest makerId code reason state
  | .completeFanout rfqDigest => a.completeV3Fanout rfqDigest
  | .journalTranscript rfqDigest transcriptDigest =>
    a.journalV3Transcript rfqDigest transcriptDigest
  | .prepareTake input attemptId => a.prepareTake config.limits input attemptId
  | .markTakeUnknown input attemptId => a.markTakeUnknown input attemptId
  | .abandonTake input attemptId => a.abandonTake config.limits input attemptId
  | .observeTaken input attemptId => a.observeTaken input attemptId
  | .markTakeAbsent input attemptId => a.markTakeAbsent config.limits input attemptId

def apply (a : Authority) : Operation → Authority
  | .beginRequest input => a.after (a.beginRequest config.localeCompare input)
  | .markFanoutRefused intentDigest makerId => a.after (a.markFanoutRefused intentDigest makerId)
  | .completeRequestFanout intentDigest => a.after (a.completeRequestFanout intentDigest)
  | .beginSelection intentDigest input => a.after (a.beginSelection intentDigest input)
  | .confirmSelection intentDigest input => a.after (a.confirmSelection intentDigest input)
  | .quarantineAuthority input revision reason =>
    a.after (a.quarantineAuthority input revision reason)
  | .authorizeFundingTicket input attemptId terms =>
    a.after (a.authorizeFundingTicket input attemptId terms)
  | .persistFundingTicket input attemptId terms =>
    a.after (a.persistFundingTicket input attemptId terms)
  | .prepareFunding input attemptId terms => a.after (a.prepareFunding input attemptId terms)
  | .markFundingUnknown input attemptId => a.after (a.markFundingUnknown input attemptId)
  | .resolveFundingReverted => a
  | .abandonFunding input attemptId terms => a.after (a.abandonFunding input attemptId terms)
  | .observeFunded input attemptId => a.after (a.observeFunded input attemptId)
  | .bindDeal input => a.after (a.bindDeal input)
  | .acquireReleaseLease input leaseId stamp => a.after (a.acquireReleaseLease input leaseId stamp)
  | .observeFundedDuringRelease input leaseId =>
    a.after (a.observeFundedDuringRelease input leaseId)
  | .terminalize input outcome => a.after (a.terminalize input outcome)
  | .v3 operation => a.after (a.applyV3 config operation)

/-- What comes before every serialized part: the clock is read, and what is due expires. -/
def enter (a : Authority) (clock : Int) : Except String Authority := do
  let stamp ← requireTimestamp clock "coordinator clock"
  a.expireV3Requests stamp

def register (a : Authority) (input : RecordInput) : Except String Registration × Authority :=
  match validateRecord input with
  | .error reason => (.error reason, a)
  | .ok record =>
    match a.registerPlan record with
    | .error reason => (.error reason, a)
    | .ok planned =>
      let planned' := a.after (.ok planned)
      match planned'.registerRecord planned.result record with
      | .error reason => (.error reason, planned')
      | .ok registered => (.ok registered.result, planned'.after (.ok registered))

end Authority

/-! ## Tasks -/

inductive TaskKind where
  | late (key : RecordKey)
  | losers
  | intent (binding : Binding) (leaseId : Text)
  | selected (input : Deal)
  | recovery

inductive TaskResult where
  | record (record : Record)
  | records (unresolved : List Record)
  | release (result : ReleaseResult)
  | failed (reason : String)

/-- Where a task is: about to turn to its next record, waiting to read a record that another task is
releasing, waiting to mark a record, waiting for its maker, waiting to note the answer, or after its
records. -/
inductive Phase where
  | next (rest : List Record)
  | joining (key : RecordKey) (rest : List Record)
  | marking (key : RecordKey) (rest : List Record)
  | calling (record : Record) (rest : List Record)
  | finishing (key : RecordKey) (released : Bool) (rest : List Record)
  | completing
  | done (result : TaskResult)

/-- The key of `#activeReleases` that a phase holds. -/
def Phase.active : Phase → Option RecordKey
  | .marking key _ => some key
  | .calling record _ => some record.key
  | .finishing key _ _ => some key
  | _ => none

structure Task where
  kind : TaskKind
  now : Int
  unresolved : List Record
  phase : Phase

structure System where
  authority : Authority
  tasks : List Task

/-- What a maker answers to a release. -/
inductive Answer where
  | yes | no | threw
  deriving DecidableEq

inductive Step where
  | operation (operation : Operation) (clock : Int)
  | register (input : RecordInput) (clock now : Int)
  | releaseLosers (intentDigest : Text) (now clock : Int)
  | releaseIntent (input : Binding) (releaseLeaseId : Text) (now clock : Int)
  | releaseSelected (input : Deal) (now clock : Int)
  | recover (now clock : Int)
  /-- A task goes on; the answer is that of its maker. -/
  | advance (task : Nat) (answer : Answer) (clock : Int)

namespace System

def empty : System := ⟨Authority.empty, []⟩

/-- Whether a key is in `#activeReleases`. -/
def Active (s : System) (key : RecordKey) : Prop := ∃ t ∈ s.tasks, t.phase.active = some key

instance (s : System) (key : RecordKey) : Decidable (s.Active key) :=
  inferInstanceAs (Decidable (∃ _ ∈ _, _))

def start (s : System) (authority : Authority) (kind : TaskKind) (now : Int)
    (records : List Record) : System := ⟨authority, s.tasks ++ [⟨kind, now, [], .next records⟩]⟩

/-- The first part of an operation that waits for makers: the maps after it, with the task that goes
on. -/
def startRegister (s : System) (a : Authority) (input : RecordInput) (now : Int) : System :=
  match a.register input with
  | (.ok registration, next) =>
    if registration.release = true then
      match requireTimestamp now "coordinator clock" with
      | .ok stamp => s.start next (.late registration.record.key) stamp [registration.record]
      | .error _ => { s with authority := next }
    else { s with authority := next }
  | (.error _, next) => { s with authority := next }

def startLosers (s : System) (a : Authority) (intentDigest : Text) (now : Int) : System :=
  match requireTimestamp now "now", a.losers intentDigest with
  | .ok stamp, .ok losers => s.start a .losers stamp losers
  | _, _ => { s with authority := a }

def startIntent (s : System) (a : Authority) (input : Binding) (leaseId : Text) (now : Int) :
    System :=
  match a.prepareReleaseIntent input leaseId now with
  | .ok outcome =>
    match outcome.result.records with
    | some records => s.start (a.after (.ok outcome))
        (.intent outcome.result.binding outcome.result.leaseId) now records
    | none => { s with authority := a.after (.ok outcome) }
  | .error _ => { s with authority := a }

def startSelected (s : System) (a : Authority) (input : Deal) (now : Int) : System :=
  match requireTimestamp now "now", a.prepareReleaseSelected input with
  | .ok stamp, .ok (_, some records) => s.start a (.selected input) stamp records
  | _, _ => { s with authority := a }

def startRecovery (s : System) (a : Authority) (now : Int) : System :=
  match requireTimestamp now "now" with
  | .ok stamp => s.start a .recovery stamp a.releasable
  | .error _ => { s with authority := a }

/-- The last part of a task. -/
def complete (a : Authority) (t : Task) : Authority × TaskResult :=
  match t.kind with
  | .late key =>
    match a.lateRegistration key with
    | .ok outcome => (a.after (.ok outcome), .record outcome.result)
    | .error reason => (a, .failed reason)
  | .losers => (a, .records t.unresolved)
  | .intent binding leaseId =>
    match a.completeReleaseIntent binding leaseId with
    | .ok outcome => (a.after (.ok outcome), .release outcome.result)
    | .error reason => (a, .failed reason)
  | .selected input =>
    match a.completeReleaseSelected input with
    | .ok result => (a, .release result)
    | .error reason => (a, .failed reason)
  | .recovery =>
    match a.recoverRequests t.now with
    | .ok recovered =>
      match recovered.expireV3Requests t.now with
      | .ok expired => (expired, .records expired.releasable)
      | .error reason => (recovered, .failed reason)
    | .error reason => (a, .failed reason)

/-- A serialized part of a task on the maps: the maps after it, and the task. -/
def serialized (a : Authority) (t : Task) : Authority × Task :=
  match t.phase with
  | .joining key rest =>
    (a, { t with phase := .next rest, unresolved := t.unresolved ++ (a.pendingRecord key).toList })
  | .marking key rest =>
    let outcome := a.markRelease key t.now
    (a.after (.ok outcome), { t with
      phase := match outcome.result with
        | some record => .calling record rest
        | none => .next rest })
  | .finishing key released rest =>
    let outcome := a.finishRelease key released
    (a.after (.ok outcome), { t with
      phase := .next rest, unresolved := t.unresolved ++ outcome.result.toList })
  | .completing =>
    let (next, result) := complete a t
    (next, { t with phase := .done result })
  | _ => (a, t)

def advance (s : System) (t : Task) (answer : Answer) (clock : Int) : Authority × Task :=
  match t.phase with
  | .next [] => (s.authority, { t with phase := .completing })
  | .next (record :: rest) =>
    (s.authority, { t with
      phase := if s.Active record.key then .joining record.key rest
        else .marking record.key rest })
  | .calling record rest =>
    (s.authority, { t with phase := .finishing record.key (decide (answer = .yes)) rest })
  | .done _ => (s.authority, t)
  | _ =>
    match s.authority.enter clock with
    | .error reason => (s.authority, { t with phase := .done (.failed reason) })
    | .ok a => serialized a t

/-- A part that starts an operation. -/
def begin (s : System) (clock : Int) (f : Authority → System) : System :=
  match s.authority.enter clock with
  | .error _ => s
  | .ok a => f a

variable (config : Config)

def step (s : System) : Step → System
  | .operation operation clock =>
    s.begin clock fun a => { s with authority := a.apply config operation }
  | .register input clock now => s.begin clock fun a => s.startRegister a input now
  | .releaseLosers intentDigest now clock => s.begin clock fun a => s.startLosers a intentDigest now
  | .releaseIntent input leaseId now clock => s.begin clock fun a => s.startIntent a input leaseId now
  | .releaseSelected input now clock => s.begin clock fun a => s.startSelected a input now
  | .recover now clock => s.begin clock fun a => s.startRecovery a now
  | .advance task answer clock =>
    match s.tasks[task]? with
    | none => s
    | some t =>
      let (a, t) := s.advance t answer clock
      ⟨a, s.tasks.set task t⟩

end System

end App20.Coordinator
