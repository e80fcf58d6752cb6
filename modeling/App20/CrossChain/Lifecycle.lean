import App20.CrossChain.Intent
import App20.Lib.Run

/-!
# The lifecycle of a cross-chain intent

A lifecycle is bound to one revision of an intent, and moves from stage to stage when it is handed
exactly this revision. It records no times: a step is judged by the time that it is handed.

* `transition_ok_iff`: the steps that are accepted.
* `lifecycle_lawful`: what holds over every run.
-/

namespace App20.CrossChain

open App20.Lib App20.Domain
open App20.Intents (Hash digestText)

/-! ## Stages -/

inductive CrossChainStage where
  | draft | validating | preflightPolicy | quoting | awaitingReview | building
  | awaitingFinalPolicy | awaitingSignature | submitting | submitted | sourceConfirming
  | sourceFinalized | settlementPending | destinationConfirming | completed
  | awaitingPrerequisite | blocked | manualReview | expired | cancelled | failedRetryable
  | failedFinal | submissionUnknown | refundPending | refunded | reorged
  deriving DecidableEq

namespace CrossChainStage

def name : CrossChainStage → String
  | draft => "DRAFT"
  | validating => "VALIDATING"
  | preflightPolicy => "PREFLIGHT_POLICY"
  | quoting => "QUOTING"
  | awaitingReview => "AWAITING_REVIEW"
  | building => "BUILDING"
  | awaitingFinalPolicy => "AWAITING_FINAL_POLICY"
  | awaitingSignature => "AWAITING_SIGNATURE"
  | submitting => "SUBMITTING"
  | submitted => "SUBMITTED"
  | sourceConfirming => "SOURCE_CONFIRMING"
  | sourceFinalized => "SOURCE_FINALIZED"
  | settlementPending => "SETTLEMENT_PENDING"
  | destinationConfirming => "DESTINATION_CONFIRMING"
  | completed => "COMPLETED"
  | awaitingPrerequisite => "AWAITING_PREREQUISITE"
  | blocked => "BLOCKED"
  | manualReview => "MANUAL_REVIEW"
  | expired => "EXPIRED"
  | cancelled => "CANCELLED"
  | failedRetryable => "FAILED_RETRYABLE"
  | failedFinal => "FAILED_FINAL"
  | submissionUnknown => "SUBMISSION_UNKNOWN"
  | refundPending => "REFUND_PENDING"
  | refunded => "REFUNDED"
  | reorged => "REORGED"

/-- `TERMINAL_STAGES` -/
def terminalStages : List CrossChainStage := [completed, expired, cancelled, failedFinal, refunded]

/-- `PRE_SUBMISSION_STAGES` -/
def preSubmissionStages : List CrossChainStage :=
  [draft, validating, preflightPolicy, quoting, awaitingReview, building, awaitingFinalPolicy,
    awaitingSignature, awaitingPrerequisite, blocked, failedRetryable]

/-- `REVISION_GATED_NEXT_STAGES` -/
def revisionGatedNextStages : List CrossChainStage :=
  [validating, preflightPolicy, quoting, building, awaitingFinalPolicy, awaitingSignature,
    submitting]

/-- `ALLOWED_TRANSITIONS` -/
def allowedTransitions : CrossChainStage → List CrossChainStage
  | draft => [validating, expired, cancelled]
  | validating =>
    [preflightPolicy, awaitingPrerequisite, blocked, expired, failedFinal, cancelled]
  | preflightPolicy => [quoting, blocked, manualReview, expired, cancelled]
  | quoting =>
    [awaitingReview, awaitingPrerequisite, expired, blocked, failedRetryable, cancelled]
  | awaitingReview => [building, validating, expired, cancelled]
  | building => [awaitingFinalPolicy, awaitingPrerequisite, failedRetryable, expired, cancelled]
  | awaitingFinalPolicy => [awaitingSignature, blocked, manualReview, expired, cancelled]
  | awaitingSignature => [submitting, expired, cancelled]
  | submitting => [submitted, submissionUnknown, failedRetryable, failedFinal]
  | submitted => [sourceConfirming, failedFinal, reorged]
  | sourceConfirming => [sourceFinalized, failedFinal, reorged]
  | sourceFinalized => [settlementPending, refundPending, failedFinal, reorged]
  | settlementPending => [destinationConfirming, refundPending, failedFinal, manualReview]
  | destinationConfirming => [completed, refundPending, failedFinal, reorged]
  | completed => []
  | awaitingPrerequisite => [validating, expired, cancelled, failedFinal]
  | blocked => [validating, expired, cancelled, failedFinal]
  | manualReview => [validating, refundPending, expired, failedFinal, cancelled]
  | expired => []
  | cancelled => []
  | failedRetryable => [validating, expired, failedFinal, cancelled]
  | failedFinal => []
  | submissionUnknown => [submitted, manualReview, failedFinal]
  | refundPending => [refunded, manualReview, failedFinal, reorged]
  | refunded => []
  | reorged => [sourceConfirming, destinationConfirming, refundPending, manualReview, failedFinal]

end CrossChainStage

open CrossChainStage

def transitionCrossChainStage (current next : CrossChainStage) : Except String CrossChainStage := do
  throwIf (current ∈ terminalStages) ("Cannot leave terminal APP20 stage " ++ current.name ++ ".")
  throwIf (next ∉ allowedTransitions current)
    ("Invalid APP20 stage transition: " ++ current.name ++ " -> " ++ next.name ++ ".")
  return next

/-! ## Lifecycles -/

structure CrossChainLifecycleState where
  stage : CrossChainStage
  intentId : Text
  revision : Int
  intentDigest : Text
  expiresAt : Text
  deadline : Text
  deriving DecidableEq

/-- A number of JavaScript, which has no value here unless it is finite. -/
abbrev Time := Option ℚ

def assertNow (now : Time) : Except String ℚ :=
  match now with
  | some t => .ok t
  | none => .error "Lifecycle time must be finite."

def hasCome (timestamp : Text) (now : ℚ) : Bool :=
  match parseCanonicalTimestamp "" timestamp with
  | .ok t => decide ((t : ℚ) ≤ now)
  | .error _ => false

def timesHaveCome (expiresAt deadline : Text) (now : ℚ) : Bool :=
  hasCome expiresAt now || hasCome deadline now

def intentHasExpired (intent : CrossChainIntentV1) (now : ℚ) : Bool :=
  timesHaveCome intent.expiresAt intent.deadline now

def createCrossChainLifecycle (sha256 : Hash) (intent : CrossChainIntentV1) (now : Time) :
    Except String CrossChainLifecycleState := do
  assertCrossChainIntent intent
  let now ← assertNow now
  throwIf (intentHasExpired intent now = true)
    "Cannot start a lifecycle for an expired intent revision."
  let intentDigest ← digestCrossChainIntent sha256 intent
  return ⟨.draft, intent.intentId, intent.revision, intentDigest, intent.expiresAt, intent.deadline⟩

def assertBound (sha256 : Hash) (state : CrossChainLifecycleState)
    (activeIntent : CrossChainIntentV1) : Except String Unit := do
  throwIf (state.intentId ≠ activeIntent.intentId ∨ state.revision ≠ activeIntent.revision)
    "The lifecycle refers to a stale intent revision."
  let activeDigest ← digestCrossChainIntent sha256 activeIntent
  throwIf (state.intentDigest ≠ activeDigest)
    "Intent terms changed without a revision increment; the lifecycle is stale."
  throwIf (state.expiresAt ≠ activeIntent.expiresAt ∨ state.deadline ≠ activeIntent.deadline)
    "The lifecycle expiry binding does not match the active intent."

def transitionCrossChainLifecycle (sha256 : Hash) (state : CrossChainLifecycleState)
    (activeIntent : CrossChainIntentV1) (next : CrossChainStage) (now : Time) :
    Except String CrossChainLifecycleState := do
  assertCrossChainIntent activeIntent
  let now ← assertNow now
  assertBound sha256 state activeIntent
  let next ← transitionCrossChainStage state.stage next
  let expired := intentHasExpired activeIntent now
  throwIf (expired = true ∧ next ≠ .expired ∧
      (state.stage ∈ preSubmissionStages ∨ next ∈ revisionGatedNextStages))
    "The active intent revision has expired."
  throwIf (expired = false ∧ next = .expired) "The active intent revision has not expired."
  return { state with stage := next }

/-! ## What is accepted -/

variable {sha256 : Hash}

structure Bound (sha256 : Hash) (state : CrossChainLifecycleState)
    (activeIntent : CrossChainIntentV1) : Prop where
  intentId : state.intentId = activeIntent.intentId
  revision : state.revision = activeIntent.revision
  digest : digestCrossChainIntent sha256 activeIntent = .ok state.intentDigest
  expiresAt : state.expiresAt = activeIntent.expiresAt
  deadline : state.deadline = activeIntent.deadline

/-- The step is one of the topology, and one that the expiry allows. -/
structure Permitted (state : CrossChainLifecycleState) (next : CrossChainStage) (now : ℚ) :
    Prop where
  alive : state.stage ∉ terminalStages
  allowed : next ∈ allowedTransitions state.stage
  late : timesHaveCome state.expiresAt state.deadline now = true → next ≠ .expired →
    state.stage ∉ preSubmissionStages ∧ next ∉ revisionGatedNextStages
  early : timesHaveCome state.expiresAt state.deadline now = false → next ≠ .expired

theorem assertBound_ok_iff {state : CrossChainLifecycleState} {activeIntent : CrossChainIntentV1}
    {u : Unit} : assertBound sha256 state activeIntent = .ok u ↔ Bound sha256 state activeIntent := by
  simp only [assertBound, bind_ok, throwIf_ok, exists_const, not_or, not_not]
  constructor
  · intro h
    obtain ⟨⟨hid, hrevision⟩, digest, hdigest, hsame, hexpires, hdeadline⟩ := h
    exact ⟨hid, hrevision, hsame ▸ hdigest, hexpires, hdeadline⟩
  · intro h
    exact ⟨⟨h.intentId, h.revision⟩, _, h.digest, rfl, h.expiresAt, h.deadline⟩

theorem assertNow_ok_iff {now : Time} {t : ℚ} : assertNow now = .ok t ↔ now = some t := by
  cases now with
  | none | some => simp [assertNow]

theorem transition_ok_iff {state state' : CrossChainLifecycleState}
    {activeIntent : CrossChainIntentV1} {next : CrossChainStage} {now : Time} :
    transitionCrossChainLifecycle sha256 state activeIntent next now = .ok state' ↔
      assertCrossChainIntent activeIntent = .ok () ∧ Bound sha256 state activeIntent ∧
        (∃ t, now = some t ∧ Permitted state next t) ∧ state' = { state with stage := next } := by
  simp only [transitionCrossChainLifecycle, transitionCrossChainStage, bind_ok,
    throwIf_ok, pure_ok, exists_const, assertBound_ok_iff, assertNow_ok_iff, exists_unit]
  constructor
  · intro h
    obtain ⟨hintent, t, hnow, hbound, _, ⟨halive, hallowed, rfl⟩, hlate, hearly, hstate⟩ := h
    have hexpired : intentHasExpired activeIntent t =
        timesHaveCome state.expiresAt state.deadline t := by
      rw [intentHasExpired, hbound.expiresAt, hbound.deadline]
    rw [hexpired] at hlate hearly
    refine ⟨hintent, hbound, ⟨t, hnow, halive, not_not.mp hallowed, fun hcome hnext => ?_,
      fun hcome hnext => hearly ⟨hcome, hnext⟩⟩, hstate⟩
    exact not_or.mp fun hor => hlate ⟨hcome, hnext, hor⟩
  · intro h
    obtain ⟨hintent, hbound, ⟨t, hnow, hpermitted⟩, hstate⟩ := h
    have hexpired : intentHasExpired activeIntent t =
        timesHaveCome state.expiresAt state.deadline t := by
      rw [intentHasExpired, hbound.expiresAt, hbound.deadline]
    refine ⟨hintent, t, hnow, hbound, next,
      ⟨hpermitted.alive, not_not.mpr hpermitted.allowed, rfl⟩, ?_, ?_, hstate⟩
    · rw [hexpired]
      intro hand
      obtain ⟨hcome, hnext, hor⟩ := hand
      obtain ⟨hstage, hgated⟩ := hpermitted.late hcome hnext
      exact hor.elim hstage hgated
    · rw [hexpired]
      exact fun hand => hpermitted.early hand.1 hand.2

/-! ## Runs -/

structure Event where
  activeIntent : CrossChainIntentV1
  next : CrossChainStage
  now : Time

/-- A lifecycle and the events that it accepted. -/
structure Sys where
  state : CrossChainLifecycleState
  accepted : List Event

def step (sha256 : Hash) (s : Sys) (e : Event) : Sys :=
  match transitionCrossChainLifecycle sha256 s.state e.activeIntent e.next e.now with
  | .ok state => ⟨state, s.accepted ++ [e]⟩
  | .error _ => s

/-- An event that is accepted leaves its binding, and one that is not leaves everything. -/
theorem step_cases (s : Sys) (e : Event) :
    step sha256 s e = s ∨ (∃ t, e.now = some t ∧ Permitted s.state e.next t) ∧
        step sha256 s e = ⟨{ s.state with stage := e.next }, s.accepted ++ [e]⟩ := by
  unfold step
  split
  · rename_i state hstate
    obtain ⟨-, -, hpermitted, rfl⟩ := transition_ok_iff.mp hstate
    exact Or.inr ⟨hpermitted, rfl⟩
  · exact Or.inl rfl

/-- What a lifecycle is bound to is not its stage. -/
def SameBinding (state state' : CrossChainLifecycleState) : Prop :=
  state' = { state with stage := state'.stage }

/-- A submission that was made in time. -/
def SubmittedInTime (state : CrossChainLifecycleState) (e : Event) : Prop :=
  e.next = .submitting ∧
    ∃ t, e.now = some t ∧ timesHaveCome state.expiresAt state.deadline t = false

/-- The binding is the first one, and what was submitted was submitted in time. -/
structure Lawful (first : CrossChainLifecycleState) (s : Sys) : Prop where
  binding : SameBinding first s.state
  submissions : ∀ e ∈ s.accepted, e.next = .submitting → SubmittedInTime first e
  submitted : s.state.stage ∈ [submitting, submitted, submissionUnknown] →
    ∃ e ∈ s.accepted, SubmittedInTime first e

theorem before_submitted : ∀ stage next : CrossChainStage, next ∈ allowedTransitions stage →
    next ∈ [submitting, submitted, submissionUnknown] →
      next = submitting ∨ stage ∈ [submitting, submitted, submissionUnknown] := by
  intro stage next hallowed hnext
  cases stage <;> revert hallowed hnext <;> cases next <;> decide

theorem lawful_step {first : CrossChainLifecycleState} {s : Sys} (e : Event)
    (h : Lawful first s) : Lawful first (step sha256 s e) := by
  rcases @step_cases sha256 s e with heq | ⟨⟨t, hnow, hpermitted⟩, heq⟩
  · rw [heq]
    exact h
  · rw [heq]
    have hexpires : s.state.expiresAt = first.expiresAt := by rw [h.binding]
    have hdeadline : s.state.deadline = first.deadline := by rw [h.binding]
    have hintime : e.next = .submitting → SubmittedInTime first e := by
      intro hnext
      refine ⟨hnext, t, hnow, ?_⟩
      rw [← hexpires, ← hdeadline]
      by_contra hcome
      have hlate := hpermitted.late (Bool.not_eq_false _ ▸ hcome) (by rw [hnext]; decide)
      rw [hnext] at hlate
      exact hlate.2 (by decide)
    refine ⟨?_, ?_, ?_⟩
    · unfold SameBinding
      dsimp only
      rw [h.binding]
    · intro e' he' hnext
      rcases List.mem_append.mp he' with he' | he'
      · exact h.submissions e' he' hnext
      · obtain rfl := List.mem_singleton.mp he'
        exact hintime hnext
    · intro hstage
      rcases before_submitted _ _ hpermitted.allowed hstage with hnext | hbefore
      · exact ⟨e, List.mem_append_right _ (List.mem_singleton_self e), hintime hnext⟩
      · obtain ⟨e', he', hmade⟩ := h.submitted hbefore
        exact ⟨e', List.mem_append_left _ he', hmade⟩

theorem lawful_run {intent : CrossChainIntentV1} {now : Time} {first : CrossChainLifecycleState}
    (h : createCrossChainLifecycle sha256 intent now = .ok first) (events : List Event) :
    Lawful first (run (step sha256) ⟨first, []⟩ events) := by
  simp only [createCrossChainLifecycle, bind_ok, pure_ok] at h
  obtain ⟨_, -, _, -, _, -, _, -, rfl⟩ := h
  refine run_invariant (I := Lawful _) (fun _ e h => lawful_step e h) events ⟨rfl, ?_, ?_⟩
  · exact fun e he => (List.not_mem_nil he).elim
  · have hdraft : CrossChainStage.draft ∉ [submitting, submitted, submissionUnknown] := by decide
    exact fun hstage => absurd hstage hdraft

/-- Over every run of a lifecycle: it stays bound to the intent that it was created for, every
accepted event hands it this intent, a terminal stage accepts none, and the expiry of the intent
decides by the time of each event alone. From then on the stages before a submission accept nothing
but `EXPIRED`, and no stage accepts a step towards a submission; `EXPIRED` is not accepted before.
What is submitted was submitted before the expiry. -/
theorem lifecycle_lawful {intent : CrossChainIntentV1} {now : Time}
    {first : CrossChainLifecycleState}
    (h : createCrossChainLifecycle sha256 intent now = .ok first) (events : List Event) :
    let s := run (step sha256) ⟨first, []⟩ events
    SameBinding first s.state ∧ Bound sha256 s.state intent ∧
      (∀ (e : Event) state, transitionCrossChainLifecycle sha256 s.state e.activeIntent e.next e.now =
          .ok state → Bound sha256 s.state e.activeIntent ∧ s.state.stage ∉ terminalStages ∧
          state = { s.state with stage := e.next } ∧ ∃ t, e.now = some t ∧
            (intentHasExpired intent t = true → e.next ≠ .expired →
              s.state.stage ∉ preSubmissionStages ∧ e.next ∉ revisionGatedNextStages) ∧
            (intentHasExpired intent t = false → e.next ≠ .expired)) ∧
      (∀ e ∈ s.accepted, e.next = .submitting →
        ∃ t, e.now = some t ∧ intentHasExpired intent t = false) ∧
      (s.state.stage ∈ [submitting, submitted, submissionUnknown] →
        ∃ e ∈ s.accepted, e.next = .submitting) := by
  intro s
  have hlawful : Lawful first s := lawful_run h events
  simp only [createCrossChainLifecycle, bind_ok, pure_ok] at h
  obtain ⟨_, -, _, -, _, -, digest, hdigest, rfl⟩ := h
  have hbinding := hlawful.binding
  have hexpires : s.state.expiresAt = intent.expiresAt := by rw [hbinding]
  have hdeadline : s.state.deadline = intent.deadline := by rw [hbinding]
  have hbound : Bound sha256 s.state intent := by
    rw [hbinding]
    exact ⟨rfl, rfl, hdigest, rfl, rfl⟩
  refine ⟨hbinding, hbound, ?_, ?_, ?_⟩
  · intro e state hstep
    obtain ⟨-, hactive, ⟨t, hnow, hpermitted⟩, rfl⟩ := transition_ok_iff.mp hstep
    have hlate := hpermitted.late
    have hearly := hpermitted.early
    rw [hexpires, hdeadline] at hlate hearly
    exact ⟨hactive, hpermitted.alive, rfl, t, hnow, hlate, hearly⟩
  · intro e he hnext
    exact (hlawful.submissions e he hnext).2
  · intro hstage
    obtain ⟨e, he, hmade⟩ := hlawful.submitted hstage
    exact ⟨e, he, hmade.1⟩

/-! ## A run over the expiry -/

/-- An intent that expires five minutes into the year 2030. -/
def sampleIntent : CrossChainIntentV1 where
  intentId := "intent-0123456789abcdef0123456789abcdef".toList
  revision := 0
  sourceAccount := ⟨"starknet:mainnet:0x123".toList, "starknet:SN_MAIN".toList, "0x123".toList,
    .ready, .user, ["strk20".toList], .advisory⟩
  destinationAccount := ⟨"eip155:1".toList, "0x456".toList⟩
  refundAccount := ⟨"starknet:SN_MAIN".toList, "0x123".toList⟩
  sourceAsset := ⟨"starknet:SN_MAIN".toList, "starknet:STRK".toList, 18⟩
  destinationAsset := ⟨"eip155:1".toList, "eip155:1/erc20:0xabc".toList, 6⟩
  amount := "1000000000000000000".toList
  minimumOutput := "990000".toList
  maximumFee := "10000".toList
  slippageBps := 100
  deadline := "2030-01-01T00:10:00Z".toList
  swapMode := .exactInput
  fundingMode := .originChain
  deliveryMode := .destinationChain
  refundMode := .originChain
  privacyMode := .isPublic
  disclosedTo := [.solver]
  createdAt := "2030-01-01T00:00:00Z".toList
  expiresAt := "2030-01-01T00:05:00Z".toList

def zeroHash : Hash := fun _ => Vector.replicate 32 0

/-- The first and the fifth minute of the year 2030. -/
def activeNow : ℚ := 1893456060000
def expiredNow : ℚ := 1893456300000

def sampleLifecycle : CrossChainLifecycleState where
  stage := .draft
  intentId := sampleIntent.intentId
  revision := sampleIntent.revision
  intentDigest := digestText zeroHash sampleIntent.tree.render
  expiresAt := sampleIntent.expiresAt
  deadline := sampleIntent.deadline

theorem create_sample :
    createCrossChainLifecycle zeroHash sampleIntent (some activeNow) = .ok sampleLifecycle := by
  decide +kernel

/-- A step that is judged active is not accepted of an expired intent. -/
theorem lifecycle_lawful_sample :
    let s := run (step zeroHash) ⟨sampleLifecycle, []⟩
      [⟨sampleIntent, .validating, some activeNow⟩, ⟨sampleIntent, .cancelled, some expiredNow⟩]
    s.state.stage = .validating ∧ Bound zeroHash s.state sampleIntent :=
  ⟨by decide +kernel, (lifecycle_lawful create_sample _).2.1⟩

/-- A lifecycle that was never submitted accepts a step after the expiry of its intent, and after it
one at an earlier time. -/
theorem refund_after_expiry :
    let s := run (step zeroHash) ⟨sampleLifecycle, []⟩
      [⟨sampleIntent, .validating, some activeNow⟩,
        ⟨sampleIntent, .preflightPolicy, some activeNow⟩,
        ⟨sampleIntent, .manualReview, some activeNow⟩,
        ⟨sampleIntent, .refundPending, some expiredNow⟩,
        ⟨sampleIntent, .manualReview, some activeNow⟩]
    (s.accepted.map fun e => (e.next, e.now)) =
        [(.validating, some activeNow), (.preflightPolicy, some activeNow),
          (.manualReview, some activeNow), (.refundPending, some expiredNow),
          (.manualReview, some activeNow)] ∧
      intentHasExpired sampleIntent expiredNow = true ∧ activeNow < expiredNow := by
  decide +kernel

end App20.CrossChain
