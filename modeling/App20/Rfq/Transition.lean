import App20.Rfq.Bindings

/-!
# Transitions

A record is moved to another state along the table, with a patch, and only if the evidence that the
new state stands for is there.

* `transition_ok`: what a transition that is made says about the states and the attempts.
* `transition_valid`: its result passes both validators.
-/

namespace App20.Rfq

open App20.Lib App20.Domain

variable (host : Host)

/-- The states of legacy RFQs that a v3 record cannot enter. -/
def v3LegacyStates : List RfqLifecycleState :=
  [.funded, .filled, .claimable, .refundable, .refunded]

def takeAttemptWasProvenNotSubmitted (attempt : Option PhaseAttempt) : Bool :=
  attempt.any fun a =>
    decide (a.state = .reverted ∧ a.walletBoundary = some .notEntered) && !given a.transactionHash

def reachedWallet (attempt : PhaseAttempt) : Bool :=
  given attempt.transactionHash || decide (attempt.walletBoundary = some .entered)

/-- The evidence of a submission whose outcome is not known. -/
def submissionUnknown (attempt : Option PhaseAttempt) : Bool :=
  attempt.any fun a =>
    (decide (a.state = .submittedUnknown) && given a.transactionHash) ||
      decide (a.state = .walletBoundaryUnknown ∧ a.walletBoundary = some .entered)

/-- `patch.attempts?.[phase] ?? record.attempts[phase]` -/
def patchedAttempt (record : RfqLifecycleRecord) (patch : LifecyclePatch) (phase : Phase) :
    Option PhaseAttempt := (patch.attempts.bind (·.get phase)).or (record.attempts.get phase)

/-- A transition with its time, state and, where there is one, hash written into the record. -/
def transitioned (record : RfqLifecycleRecord) (state : RfqLifecycleState) (now : Int)
    (patch : LifecyclePatch) : RfqLifecycleRecord :=
  let removesSigningKey := decide (record.mode = .v3) && !v3StateKeepsSigningKey state
  let takeTransactionHash :=
    if record.mode = .v3 ∧ state = .settled then
      some (((patch.attempts.bind (·.take)).bind (·.transactionHash)).or
        (record.attempts.take.bind (·.transactionHash)))
    else patch.takeTransactionHash
  reviseRfqLifecycle record
    { patch with
      state := some state
      updatedAt := some now
      takeTransactionHash
      takerSigningKey := if removesSigningKey = true then some none else patch.takerSigningKey }

def transitionRfqLifecycle (record : RfqLifecycleRecord) (state : RfqLifecycleState) (now : Int)
    (patch : LifecyclePatch) : Except String RfqLifecycleRecord := do
  throwIf (state = .reorged)
    "Only an increasing evidence-authority signal may mark an RFQ reorged."
  let takeReverts := record.mode = .v3 ∧ record.state = .submissionUnknown ∧ state = .expired
  throwIf (state ∉ allowed record.state ∧ ¬ takeReverts)
    ("RFQ lifecycle cannot transition from " ++ record.state.name ++ " to " ++ state.name ++ ".")
  throwIf (record.mode = .v3 ∧ state ∈ v3LegacyStates)
    ("RFQ v3 cannot enter the legacy " ++ state.name ++ " state.")
  throwIf (record.mode ≠ .v3 ∧ state = .settled ∧ record.state = .submissionUnknown)
    "Legacy RFQs cannot settle directly from submission-unknown."
  let phase := match record.mode with
    | .v3 => Phase.take
    | .v2 => Phase.funding
  let attempt := patchedAttempt record patch phase
  throwIf (state = .submissionUnknown ∧ submissionUnknown attempt = false)
    "submission-unknown requires a submitted hash or durable hashless wallet-boundary evidence."
  throwIf (record.state = .submissionUnknown ∧ state = .reviewing ∧ record.mode = .v3)
    "A Take that reached the wallet boundary cannot return to review."
  throwIf (record.state = .submissionUnknown ∧ state = .reviewing ∧
      ¬ ∃ a ∈ attempt, a.state = .reverted)
    "Only a proven reverted funding attempt may return to deliberate review."
  throwIf (takeReverts ∧ ¬ ∃ a ∈ attempt, a.state = .reverted ∧ reachedWallet a = true)
    "Terminal Take reversion requires wallet-boundary or transaction evidence."
  throwIf (record.mode = .v3 ∧ state = .settled ∧
      ¬ ∃ a ∈ attempt, a.state = .confirmed ∧ reachedWallet a = true)
    "RFQ v3 settlement requires a confirmed exact Take attempt."
  let now ← checkedTimestamp now "now"
  let next := transitioned record state now patch
  assertRfqLifecycleAttemptTargets host next
  assertRfqV3LifecycleBindings host next
  return next

variable {host}
variable {record next : RfqLifecycleRecord} {state : RfqLifecycleState} {now : Int}
  {patch : LifecyclePatch}

/-! ## What a transition says -/

/-- The moves that a transition can make. -/
def Moves (mode : Mode) (before after : RfqLifecycleState) : Prop :=
  after ∈ allowed before ∨ (mode = .v3 ∧ before = .submissionUnknown ∧ after = .expired)

theorem transition_ok (h : transitionRfqLifecycle host record state now patch = .ok next) :
    next = transitioned record state now patch ∧ Moves record.mode record.state state ∧
      (record.mode = .v3 → state ∉ v3LegacyStates ∧
        (state = .settled → ∃ a ∈ patchedAttempt record patch .take,
          a.state = .confirmed ∧ reachedWallet a = true)) ∧
      assertRfqLifecycleAttemptTargets host next = .ok () ∧
      assertRfqV3LifecycleBindings host next = .ok () := by
  simp only [transitionRfqLifecycle, checkedTimestamp, bind_ok, throwIf_ok,
    exists_unit, pure_ok] at h
  obtain ⟨-, hmoves, hlegacy, -, -, -, -, -, hsettles, _, ⟨-, rfl⟩, htargets, hbindings, rfl⟩ := h
  refine ⟨rfl, ?_, ?_, htargets, hbindings⟩
  · by_contra hnot
    rw [Moves, not_or] at hnot
    exact hmoves hnot
  · intro hmode
    refine ⟨fun hstate => hlegacy ⟨hmode, hstate⟩, fun hstate => ?_⟩
    by_contra hnot
    rw [hmode] at hsettles
    exact hsettles ⟨rfl, hstate, hnot⟩

theorem transition_valid (h : transitionRfqLifecycle host record state now patch = .ok next) :
    assertRfqLifecycleAttemptTargets host next = .ok () ∧
      assertRfqV3LifecycleBindings host next = .ok () := (transition_ok h).2.2.2

end App20.Rfq
