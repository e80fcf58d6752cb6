import App20.Lib.Run
import App20.Policy.Receipts

/-!
# Approvals

Calls that verify the receipt of a policy service, each with its own evidence and its own reviewed
action. A call reviews what it is given, waits for the two verifiers, and lets the replay guard
consume the receipt last. Calls run beside each other: what the verifiers and the guard answer, and
when, is up to the world, within what an ideal signature scheme and the guard's contract allow.

* `reviewed_of_ok`: all that the review demands.
* `Fresh`: the contract of the guard.
* `approvals_sound`: what an approval means, and which calls consume.
-/

namespace App20.Policy

open App20.Lib

/-! ## The reviewed action -/

structure ExpectedPolicyBinding where
  workflowId : Units
  workflowEpoch : Nat
  intentDigest : Units
  revision : Nat
  executionDigest : Units
  quoteDigest : Option Units
  policyVersion : Units
  constraintDigest : Units
  nonce : Units
  challenge : Units
  attestationVendor : Units
  approvedMeasurements : Units → Bool

def expectedBindingFields : List String :=
  ["workflowId", "workflowEpoch", "intentDigest", "revision", "executionDigest", "quoteDigest",
    "policyVersion", "constraintDigest", "nonce", "challenge", "attestationVendor",
    "approvedMeasurements"]

/-- The reviewed action as it is given: a value, and the `has` of its approved measurements, if they
are an object with one. -/
structure ExpectedInput where
  value : Value
  approvedMeasurements : Option (Units → Bool)

def assertExpectedBinding (input : ExpectedInput) : Except Units ExpectedPolicyBinding := do
  let expected ← record input.value "ExpectedPolicyBinding"
  strictKeys expected "ExpectedPolicyBinding" expectedBindingFields
  let string := fun (name : String) =>
    assertOpaqueValue ("Expected policy " ++ name) (field expected name)
  let workflowEpoch ← assertSafeNonNegativeInteger "Expected workflowEpoch"
    (field expected "workflowEpoch")
  let revision ← assertSafeNonNegativeInteger "Expected revision" (field expected "revision")
  let workflowId ← string "workflowId" 256
  let intentDigest ← string "intentDigest" 1024
  let executionDigest ← string "executionDigest" 1024
  let policyVersion ← string "policyVersion" 256
  let constraintDigest ← string "constraintDigest" 1024
  let nonce ← string "nonce" 1024
  let challenge ← string "challenge" 1024
  let attestationVendor ← string "attestationVendor" 256
  let quoteDigest ← assertNullable "Expected policy quoteDigest" (field expected "quoteDigest") 1024
  match input.approvedMeasurements with
  | some approvedMeasurements =>
    return { workflowId, workflowEpoch, intentDigest, revision, executionDigest, quoteDigest,
             policyVersion, constraintDigest, nonce, challenge, attestationVendor,
             approvedMeasurements }
  | none => .error (text "Expected policy approvedMeasurements must be a read-only set.")

/-! ## The review -/

/-- What a call is given. The clock is read for `now` where it is not given. -/
structure Call where
  receipt : Value
  evidence : Value
  expected : ExpectedInput
  signatureVerifier : Bool
  attestationVerifier : Bool
  replayGuard : Bool
  now : Value
  maximumClockSkewMs : Value

def finite? (value : Value) : Option ℚ :=
  match value with
  | .number q => some q
  | _ => none

def assertEqual {α : Type} [DecidableEq α] (label : String) (actual expected : α) :
    Except Units Unit :=
  throwIf (actual ≠ expected)
    (text ("Policy receipt " ++ label ++ " does not match the reviewed action."))

def assertBinding (receipt : PolicyReceiptV1) (evidence : AttestationEvidence)
    (expected : ExpectedPolicyBinding) : Except Units Unit := do
  assertEqual "workflowId" receipt.workflowId expected.workflowId
  assertEqual "workflowEpoch" receipt.workflowEpoch expected.workflowEpoch
  assertEqual "intentDigest" receipt.intentDigest expected.intentDigest
  assertEqual "revision" receipt.revision expected.revision
  assertEqual "executionDigest" receipt.executionDigest expected.executionDigest
  assertEqual "quoteDigest" receipt.quoteDigest expected.quoteDigest
  assertEqual "policyVersion" receipt.policyVersion expected.policyVersion
  assertEqual "constraintDigest" receipt.constraintDigest expected.constraintDigest
  assertEqual "nonce" receipt.nonce expected.nonce
  assertEqual "attestation vendor" receipt.attestationVendor expected.attestationVendor
  assertEqual "attestation vendor evidence" evidence.vendor expected.attestationVendor
  assertEqual "attestation challenge" receipt.attestationChallenge expected.challenge
  assertEqual "attestation evidence digest" receipt.attestationEvidenceDigest
    evidence.evidenceDigest
  assertEqual "measurement" receipt.enclaveMeasurement evidence.measurement
  assertEqual "ephemeral key" receipt.attestedEphemeralKey evidence.ephemeralKey
  assertEqual "attestation challenge evidence" evidence.challenge expected.challenge

def assertEnclave (receipt : PolicyReceiptV1) (evidence : AttestationEvidence)
    (expected : ExpectedPolicyBinding) : Except Units Unit := do
  throwIf (expected.approvedMeasurements receipt.enclaveMeasurement = false)
    (text "The enclave measurement is not approved for this APP20 policy.")
  throwIf (evidence.debug = true) (text "Debug enclave evidence is not accepted.")
  throwIf (evidence.securityStatus ≠ .upToDate)
    (text "Enclave security status is " ++ evidence.securityStatus.text ++
      text "; execution is disabled.")

/-- Sums of times are exact here, as they are for integers that are not too large. -/
def assertWindows (receipt : PolicyReceiptV1) (evidence : AttestationEvidence) (now skew : ℚ) :
    Except Units Unit := do
  throwIf (now + skew < receipt.issuedAt.time ∨ now + skew < evidence.issuedAt.time)
    (text "Policy or attestation evidence is from the future.")
  throwIf ((receipt.expiresAt.time : ℚ) ≤ now ∨ (evidence.expiresAt.time : ℚ) ≤ now)
    (text "Policy or attestation evidence has expired.")
  throwIf (receipt.issuedAt.time < evidence.issuedAt.time ∨
      evidence.expiresAt.time < receipt.expiresAt.time)
    (text "Policy receipt validity must remain inside the attestation window.")

def assertTimes (c : Call) : Except Units (ℚ × ℚ) :=
  match finite? c.now with
  | none => .error (text "now must be a finite timestamp.")
  | some now =>
    match finite? c.maximumClockSkewMs with
    | none => .error (text "maximumClockSkewMs must be a non-negative finite number.")
    | some skew =>
      if skew < 0 then
        .error (text "maximumClockSkewMs must be a non-negative finite number.")
      else .ok (now, skew)

/-- `verifyPolicyApproval`, up to the first wait. -/
def review (host : Host) (c : Call) : Except Units (PolicyReceiptV1 × AttestationEvidence) := do
  let (now, skew) ← assertTimes c
  throwIf (c.signatureVerifier = false)
    (text "An injected policy receipt signature verifier is required.")
  throwIf (c.attestationVerifier = false)
    (text "An injected remote attestation verifier is required.")
  throwIf (c.replayGuard = false) (text "An injected atomic policy replay guard is required.")
  let receipt ← assertPolicyReceipt c.receipt
  let evidence ← assertAttestationEvidence c.evidence
  let expected ← assertExpectedBinding c.expected
  let evidence ← snapshotEvidence host evidence
  throwIf (receipt.decision ≠ .allow) (text "APP20 policy denied this action.")
  assertBinding receipt evidence expected
  assertEnclave receipt evidence expected
  assertWindows receipt evidence now skew
  return (receipt, evidence)

/-! ### What was reviewed -/

/-- The receipt is about the reviewed action. -/
structure Bound (r : PolicyReceiptV1) (x : ExpectedPolicyBinding) : Prop where
  workflowId : r.workflowId = x.workflowId
  workflowEpoch : r.workflowEpoch = x.workflowEpoch
  intentDigest : r.intentDigest = x.intentDigest
  revision : r.revision = x.revision
  executionDigest : r.executionDigest = x.executionDigest
  quoteDigest : r.quoteDigest = x.quoteDigest
  policyVersion : r.policyVersion = x.policyVersion
  constraintDigest : r.constraintDigest = x.constraintDigest
  nonce : r.nonce = x.nonce
  challenge : r.attestationChallenge = x.challenge
  attestationVendor : r.attestationVendor = x.attestationVendor
  approvedMeasurements : x.approvedMeasurements r.enclaveMeasurement = true

structure Attests (e : AttestationEvidence) (r : PolicyReceiptV1) : Prop where
  vendor : e.vendor = r.attestationVendor
  measurement : e.measurement = r.enclaveMeasurement
  ephemeralKey : e.ephemeralKey = r.attestedEphemeralKey
  challenge : e.challenge = r.attestationChallenge
  evidenceDigest : e.evidenceDigest = r.attestationEvidenceDigest
  debug : e.debug = false
  securityStatus : e.securityStatus = .upToDate

/-- A window contains a time, up to the skew at its start. -/
def Contains (issuedAt expiresAt : Timestamp) (now skew : ℚ) : Prop :=
  (issuedAt.time : ℚ) ≤ now + skew ∧ now < expiresAt.time

structure Timely (r : PolicyReceiptV1) (e : AttestationEvidence) (now skew : ℚ) : Prop where
  receipt : Contains r.issuedAt r.expiresAt now skew
  evidence : Contains e.issuedAt e.expiresAt now skew
  inside : e.issuedAt.time ≤ r.issuedAt.time ∧ r.expiresAt.time ≤ e.expiresAt.time

structure Reviewed (host : Host) (c : Call) (r : PolicyReceiptV1) (e : AttestationEvidence) :
    Prop where
  receipt : assertPolicyReceipt c.receipt = .ok r
  evidence : ∃ e', assertAttestationEvidence c.evidence = .ok e' ∧ snapshotEvidence host e' = .ok e
  allow : r.decision = .allow
  bound : ∃ x, assertExpectedBinding c.expected = .ok x ∧ Bound r x
  attests : Attests e r
  timely : ∃ now skew, finite? c.now = some now ∧ finite? c.maximumClockSkewMs = some skew ∧
    0 ≤ skew ∧ Timely r e now skew

variable {host : Host} {c : Call} {r : PolicyReceiptV1} {e : AttestationEvidence}
variable {x : ExpectedPolicyBinding} {now skew : ℚ}

variable {u : Unit}

theorem assertEqual_ok {α : Type} [DecidableEq α] {label : String} {actual expected : α}
    (h : assertEqual label actual expected = .ok u) : actual = expected :=
  not_not.mp (throwIf_ok.mp h)

theorem assertTimes_ok {times : ℚ × ℚ} (h : assertTimes c = .ok times) :
    finite? c.now = some times.1 ∧ finite? c.maximumClockSkewMs = some times.2 ∧ 0 ≤ times.2 := by
  unfold assertTimes at h
  split at h
  · cases h
  · rename_i now hnow
    split at h
    · cases h
    · rename_i skew hskew
      split at h
      · cases h
      · rename_i hnonneg
        obtain rfl := Except.ok.inj h
        exact ⟨hnow, hskew, not_lt.mp hnonneg⟩

theorem assertWindows_ok (h : assertWindows r e now skew = .ok u) : Timely r e now skew := by
  obtain ⟨_, hissued, h⟩ := bind_ok.mp h
  obtain ⟨_, hexpired, hinside⟩ := bind_ok.mp h
  rw [throwIf_ok, not_or, not_lt, not_lt] at hissued hinside
  rw [throwIf_ok, not_or, not_le, not_le] at hexpired
  exact ⟨⟨hissued.1, hexpired.1⟩, ⟨hissued.2, hexpired.2⟩, hinside⟩

theorem assertEnclave_ok (h : assertEnclave r e x = .ok u) :
    x.approvedMeasurements r.enclaveMeasurement = true ∧ e.debug = false ∧
      e.securityStatus = .upToDate := by
  obtain ⟨_, happroved, h⟩ := bind_ok.mp h
  obtain ⟨_, hdebug, hstatus⟩ := bind_ok.mp h
  rw [throwIf_ok, Bool.not_eq_false] at happroved
  rw [throwIf_ok, Bool.not_eq_true] at hdebug
  rw [throwIf_ok, not_not] at hstatus
  exact ⟨happroved, hdebug, hstatus⟩

theorem assertBinding_ok (h : assertBinding r e x = .ok u)
    (henclave : x.approvedMeasurements r.enclaveMeasurement = true ∧ e.debug = false ∧
      e.securityStatus = .upToDate) : Bound r x ∧ Attests e r := by
  unfold assertBinding at h
  obtain ⟨_, hworkflowId, h⟩ := bind_ok.mp h
  obtain ⟨_, hworkflowEpoch, h⟩ := bind_ok.mp h
  obtain ⟨_, hintent, h⟩ := bind_ok.mp h
  obtain ⟨_, hrevision, h⟩ := bind_ok.mp h
  obtain ⟨_, hexecution, h⟩ := bind_ok.mp h
  obtain ⟨_, hquote, h⟩ := bind_ok.mp h
  obtain ⟨_, hpolicy, h⟩ := bind_ok.mp h
  obtain ⟨_, hconstraint, h⟩ := bind_ok.mp h
  obtain ⟨_, hnonce, h⟩ := bind_ok.mp h
  obtain ⟨_, hvendor, h⟩ := bind_ok.mp h
  obtain ⟨_, hvendor', h⟩ := bind_ok.mp h
  obtain ⟨_, hchallenge, h⟩ := bind_ok.mp h
  obtain ⟨_, hdigest, h⟩ := bind_ok.mp h
  obtain ⟨_, hmeasurement, h⟩ := bind_ok.mp h
  obtain ⟨_, hkey, hchallenge'⟩ := bind_ok.mp h
  refine ⟨⟨assertEqual_ok hworkflowId, assertEqual_ok hworkflowEpoch, assertEqual_ok hintent,
    assertEqual_ok hrevision, assertEqual_ok hexecution, assertEqual_ok hquote,
    assertEqual_ok hpolicy, assertEqual_ok hconstraint, assertEqual_ok hnonce,
    assertEqual_ok hchallenge, assertEqual_ok hvendor, henclave.1⟩, ?_⟩
  exact ⟨(assertEqual_ok hvendor').trans (assertEqual_ok hvendor).symm,
    (assertEqual_ok hmeasurement).symm, (assertEqual_ok hkey).symm,
    (assertEqual_ok hchallenge').trans (assertEqual_ok hchallenge).symm,
    (assertEqual_ok hdigest).symm, henclave.2.1, henclave.2.2⟩

theorem reviewed_of_ok (h : review host c = .ok (r, e)) : Reviewed host c r e := by
  obtain ⟨⟨now, skew⟩, htimes, h⟩ := bind_ok.mp h
  obtain ⟨_, -, h⟩ := bind_ok.mp h
  obtain ⟨_, -, h⟩ := bind_ok.mp h
  obtain ⟨_, -, h⟩ := bind_ok.mp h
  obtain ⟨r', hreceipt, h⟩ := bind_ok.mp h
  obtain ⟨e', hevidence, h⟩ := bind_ok.mp h
  obtain ⟨x, hexpected, h⟩ := bind_ok.mp h
  obtain ⟨e'', hsnapshot, h⟩ := bind_ok.mp h
  obtain ⟨_, hallow, h⟩ := bind_ok.mp h
  obtain ⟨_, hbinding, h⟩ := bind_ok.mp h
  obtain ⟨_, henclave, h⟩ := bind_ok.mp h
  obtain ⟨_, hwindows, h⟩ := bind_ok.mp h
  obtain ⟨rfl, rfl⟩ := Prod.mk.inj (Except.ok.inj h)
  obtain ⟨hbound, hattests⟩ := assertBinding_ok hbinding (assertEnclave_ok henclave)
  obtain ⟨hnow, hskew, hnonneg⟩ := assertTimes_ok htimes
  exact ⟨hreceipt, ⟨e', hevidence, hsnapshot⟩, not_not.mp (throwIf_ok.mp hallow),
    ⟨x, hexpected, hbound⟩, hattests, now, skew, hnow, hskew, hnonneg, assertWindows_ok hwindows⟩

/-! ## The guard -/

/-- What the guard is asked to consume. -/
structure Consumption where
  workflowId : Units
  workflowEpoch : Nat
  attestedEphemeralKey : Units
  nonce : Units
  monotonicCounter : Counter
  receiptSignature : Units

def PolicyReceiptV1.consumption (r : PolicyReceiptV1) : Consumption where
  workflowId := r.workflowId
  workflowEpoch := r.workflowEpoch
  attestedEphemeralKey := r.attestedEphemeralKey
  nonce := r.nonce
  monotonicCounter := r.monotonicCounter
  receiptSignature := r.signature

def SameScope (a b : Consumption) : Prop :=
  a.workflowId = b.workflowId ∧ a.attestedEphemeralKey = b.attestedEphemeralKey

instance (a b : Consumption) : Decidable (SameScope a b) := inferInstanceAs (Decidable (_ ∧ _))

/-- The guard may consume an input after another one: neither the nonce nor the signature is used
again, and within a scope the epoch does not decrease and the counter increases. -/
def Fresh (consumed input : Consumption) : Prop :=
  consumed.nonce ≠ input.nonce ∧ consumed.receiptSignature ≠ input.receiptSignature ∧
    (SameScope consumed input → consumed.workflowEpoch ≤ input.workflowEpoch ∧
      consumed.monotonicCounter.value < input.monotonicCounter.value)

instance (consumed input : Consumption) : Decidable (Fresh consumed input) :=
  inferInstanceAs (Decidable (_ ∧ _))

inductive PolicyReplayResult where
  | accepted | replay | rollback
  /-- A result outside the type. -/
  | invalid

/-! ## The world -/

inductive Stage where
  | attesting
  | verifying
  | consuming
  /-- So many inputs were consumed before this one. -/
  | approved (order : Nat)
  | failed (error : Units)
  deriving DecidableEq

/-- A call that was reviewed. -/
structure Progress where
  call : Call
  receipt : PolicyReceiptV1
  evidence : AttestationEvidence
  stage : Stage

structure World where
  /-- What the holders of keys have signed. -/
  signed : List (Units × PolicyReceiptV1)
  /-- What the attestation verifier has accepted. -/
  attested : List AttestationEvidence
  /-- What the guard has consumed, and in which call, in this order. -/
  consumed : List (Nat × Consumption)
  calls : Nat → Option Progress

def initial : World := ⟨[], [], [], fun _ => none⟩

/-- An answer is given, or the other side throws. -/
abbrev Answer (α : Type) := Except Units α

inductive Action where
  | sign (key : Units) (receipt : PolicyReceiptV1)
  | call (id : Nat) (c : Call)
  | attest (id : Nat) (answer : Answer Bool)
  | verify (id : Nat) (answer : Answer Bool)
  | consume (id : Nat) (commits : Bool) (answer : Answer PolicyReplayResult)

/-- The holder of the attested key signed these bytes. -/
def authentic (w : World) (r : PolicyReceiptV1) : Bool :=
  w.signed.any fun s => decide (s.1 = r.attestedEphemeralKey ∧
    policyReceiptSignedBytes s.2 = policyReceiptSignedBytes r)

def World.enter (w : World) (id : Nat) (p : Progress) (stage : Stage) : World :=
  { w with calls := Function.update w.calls id (some { p with stage }) }

def afterAttest (w : World) (id : Nat) (p : Progress) (answer : Answer Bool) : World :=
  match answer with
  | .ok true => { w with attested := p.evidence :: w.attested }.enter id p .verifying
  | .ok false => w.enter id p (.failed (text "Remote attestation verification failed."))
  | .error e => w.enter id p (.failed e)

/-- The signature verifier accepts nothing that was not signed. -/
def afterVerify (w : World) (id : Nat) (p : Progress) (answer : Answer Bool) : World :=
  match answer with
  | .ok true => if authentic w p.receipt = true then w.enter id p .consuming else w
  | .ok false => w.enter id p (.failed (text "Policy receipt signature verification failed."))
  | .error e => w.enter id p (.failed e)

def outcome (answer : Answer PolicyReplayResult) (order : Nat) : Stage :=
  match answer with
  | .ok .accepted => .approved order
  | .ok .replay =>
    .failed (text "Policy receipt nonce or signature has already been consumed.")
  | .ok .rollback =>
    .failed (text "Policy receipt monotonic counter or workflow epoch rolled back.")
  | .ok .invalid =>
    .failed (text "The atomic policy replay guard returned an invalid result.")
  | .error e => .failed e

/-- The guard commits only what is fresh, and accepts only what it committed. -/
def Contracted (w : World) (input : Consumption) (commits : Bool)
    (answer : Answer PolicyReplayResult) : Prop :=
  (commits = true → ∀ entry ∈ w.consumed, Fresh entry.2 input) ∧
    (commits = false → outcome answer w.consumed.length ≠ .approved w.consumed.length)

instance (w : World) (input : Consumption) (commits : Bool) (answer : Answer PolicyReplayResult) :
    Decidable (Contracted w input commits answer) := inferInstanceAs (Decidable (_ ∧ _))

def afterConsume (w : World) (id : Nat) (p : Progress) (commits : Bool)
    (answer : Answer PolicyReplayResult) : World :=
  if Contracted w p.receipt.consumption commits answer then
    { w with consumed := if commits then w.consumed ++ [(id, p.receipt.consumption)]
             else w.consumed }.enter id p (outcome answer w.consumed.length)
  else w

def waiting (w : World) (id : Nat) (stage : Stage) : Option Progress :=
  (w.calls id).filter fun p => p.stage = stage

/-- A call that fails its review throws, and leaves nothing. -/
def step (host : Host) (w : World) : Action → World
  | .sign key receipt => { w with signed := (key, receipt) :: w.signed }
  | .call id c =>
    match w.calls id, review host c with
    | none, .ok (r, e) => w.enter id ⟨c, r, e, .attesting⟩ .attesting
    | _, _ => w
  | .attest id answer =>
    match waiting w id .attesting with
    | some p => afterAttest w id p answer
    | none => w
  | .verify id answer =>
    match waiting w id .verifying with
    | some p => afterVerify w id p answer
    | none => w
  | .consume id commits answer =>
    match waiting w id .consuming with
    | some p => afterConsume w id p commits answer
    | none => w

/-! ## What holds of every world -/

/-- The holder of the attested key signed a receipt that differs in the signature at most. -/
def SignedBy (w : World) (r : PolicyReceiptV1) : Prop :=
  ∃ r', (r.attestedEphemeralKey, r') ∈ w.signed ∧ r'.unsigned = r.unsigned

structure Checked (host : Host) (w : World) (p : Progress) : Prop where
  reviewed : Reviewed host p.call p.receipt p.evidence
  attested : p.evidence ∈ w.attested
  signed : SignedBy w p.receipt

/-- How far the checks have come at a stage. -/
def CallSound (host : Host) (w : World) (id : Nat) (p : Progress) : Prop :=
  match p.stage with
  | .attesting => Reviewed host p.call p.receipt p.evidence
  | .verifying => Reviewed host p.call p.receipt p.evidence ∧ p.evidence ∈ w.attested
  | .consuming => Checked host w p
  | .approved order =>
    Checked host w p ∧ w.consumed[order]? = some (id, p.receipt.consumption)
  | .failed _ => True

def Stage.isOver : Stage → Bool
  | .approved _ | .failed _ => true
  | _ => false

structure WorldSound (host : Host) (w : World) : Prop where
  calls : ∀ id p, w.calls id = some p → CallSound host w id p
  consumed : ∀ entry ∈ w.consumed, ∃ p, w.calls entry.1 = some p ∧ p.stage.isOver = true ∧
    Checked host w p ∧ entry.2 = p.receipt.consumption
  fresh : w.consumed.Pairwise fun a b => a.1 ≠ b.1 ∧ Fresh a.2 b.2

variable {host : Host} {w w' : World} {id : Nat} {p : Progress}

/-- What was recorded stays recorded. -/
structure Grows (w w' : World) : Prop where
  signed : w.signed ⊆ w'.signed
  attested : w.attested ⊆ w'.attested
  consumed : w.consumed <+: w'.consumed

theorem Checked.grows (h : Checked host w p) (hgrows : Grows w w') : Checked host w' p := by
  obtain ⟨r', hmem, hsame⟩ := h.signed
  exact ⟨h.reviewed, hgrows.attested h.attested, r', hgrows.signed hmem, hsame⟩

theorem Checked.enter (h : Checked host w p) (stage : Stage) : Checked host w { p with stage } :=
  ⟨h.reviewed, h.attested, h.signed⟩

theorem CallSound.grows (h : CallSound host w id p) (hgrows : Grows w w') :
    CallSound host w' id p := by
  unfold CallSound at h ⊢
  split at h
  · exact h
  · exact ⟨h.1, hgrows.attested h.2⟩
  · exact h.grows hgrows
  · refine ⟨h.1.grows hgrows, ?_⟩
    obtain ⟨rest, hrest⟩ := hgrows.consumed
    obtain ⟨hlt, -⟩ := List.getElem?_eq_some_iff.mp h.2
    rw [← hrest, List.getElem?_append_left hlt]
    exact h.2
  · trivial

theorem signedBy_of_authentic (h : authentic w p.receipt = true) : SignedBy w p.receipt := by
  obtain ⟨⟨key, r'⟩, hmem, hboth⟩ := List.any_eq_true.mp h
  obtain ⟨hkey, hbytes⟩ := of_decide_eq_true hboth
  have hkey : key = p.receipt.attestedEphemeralKey := hkey
  subst hkey
  exact ⟨r', hmem, unsigned_of_signedBytes hbytes⟩

variable {stage : Stage}

theorem waiting_eq_some (h : waiting w id stage = some p) :
    w.calls id = some p ∧ p.stage = stage := by
  obtain ⟨hcall, hstage⟩ := Option.filter_eq_some_iff.mp h
  exact ⟨hcall, of_decide_eq_true hstage⟩

theorem WorldSound.not_consumed (h : WorldSound host w) (hcall : w.calls id = some p)
    (hstage : p.stage.isOver = false) : ∀ entry ∈ w.consumed, entry.1 ≠ id := by
  rintro entry hentry rfl
  obtain ⟨p', hcall', hover, -⟩ := h.consumed entry hentry
  cases hcall.symm.trans hcall'
  cases hstage.symm.trans hover

theorem enter_self : (w.enter id p stage).calls id = some { p with stage } := by
  unfold World.enter
  exact Function.update_self ..

theorem enter_other {id' : Nat} (h : id' ≠ id) : (w.enter id p stage).calls id' = w.calls id' := by
  unfold World.enter
  exact Function.update_of_ne h ..

theorem WorldSound.enter (h : WorldSound host w) (hgrows : Grows w w') (hcalls : w'.calls = w.calls)
    (hconsumed : w'.consumed = w.consumed) (hnone : ∀ entry ∈ w.consumed, entry.1 ≠ id)
    (hsound : CallSound host (w'.enter id p stage) id { p with stage }) :
    WorldSound host (w'.enter id p stage) := by
  have hgrows' : Grows w (w'.enter id p stage) := ⟨hgrows.signed, hgrows.attested, hgrows.consumed⟩
  constructor
  · intro id' p' hcall
    by_cases hid : id' = id
    · subst hid
      cases enter_self.symm.trans hcall
      exact hsound
    · rw [enter_other hid, hcalls] at hcall
      exact (h.calls id' p' hcall).grows hgrows'
  · intro entry hentry
    have hold : entry ∈ w.consumed := hconsumed ▸ hentry
    obtain ⟨p', hcall, hover, hchecked, hinput⟩ := h.consumed entry hold
    refine ⟨p', ?_, hover, hchecked.grows hgrows', hinput⟩
    rw [enter_other (hnone entry hold), hcalls]
    exact hcall
  · have hsame : (w'.enter id p stage).consumed = w.consumed := hconsumed
    rw [hsame]
    exact h.fresh

theorem Grows.refl (w : World) : Grows w w := ⟨fun _ h => h, fun _ h => h, List.prefix_rfl⟩

theorem WorldSound.attest (h : WorldSound host w) (hcall : w.calls id = some p)
    (hstage : p.stage = .attesting) (answer : Answer Bool) :
    WorldSound host (afterAttest w id p answer) := by
  have hreviewed := h.calls id p hcall
  unfold CallSound at hreviewed
  rw [hstage] at hreviewed
  have hnone := h.not_consumed hcall (by rw [hstage]; rfl)
  unfold afterAttest
  split
  · exact h.enter ⟨fun _ h => h, fun _ h => List.mem_cons_of_mem _ h, List.prefix_rfl⟩ rfl rfl hnone
      ⟨hreviewed, List.mem_cons_self⟩
  · exact h.enter (.refl w) rfl rfl hnone trivial
  · exact h.enter (.refl w) rfl rfl hnone trivial

theorem WorldSound.verify (h : WorldSound host w) (hcall : w.calls id = some p)
    (hstage : p.stage = .verifying) (answer : Answer Bool) :
    WorldSound host (afterVerify w id p answer) := by
  have hattested := h.calls id p hcall
  unfold CallSound at hattested
  rw [hstage] at hattested
  have hnone := h.not_consumed hcall (by rw [hstage]; rfl)
  unfold afterVerify
  split
  · split
    · rename_i hauthentic
      exact h.enter (.refl w) rfl rfl hnone
        ⟨hattested.1, hattested.2, signedBy_of_authentic hauthentic⟩
    · exact h
  · exact h.enter (.refl w) rfl rfl hnone trivial
  · exact h.enter (.refl w) rfl rfl hnone trivial

theorem outcome_cases (answer : Answer PolicyReplayResult) (order : Nat) :
    outcome answer order = .approved order ∨ ∃ e, outcome answer order = .failed e := by
  unfold outcome
  split
  · exact .inl rfl
  · exact .inr ⟨_, rfl⟩
  · exact .inr ⟨_, rfl⟩
  · exact .inr ⟨_, rfl⟩
  · exact .inr ⟨_, rfl⟩

/-- The input of a call is consumed once all its checks have passed. -/
theorem WorldSound.commit (h : WorldSound host w) (hchecked : Checked host w p)
    (hnone : ∀ entry ∈ w.consumed, entry.1 ≠ id)
    (hfresh : ∀ entry ∈ w.consumed, Fresh entry.2 p.receipt.consumption)
    (answer : Answer PolicyReplayResult) :
    WorldSound host ({ w with consumed := w.consumed ++ [(id, p.receipt.consumption)] }.enter id p
      (outcome answer w.consumed.length)) := by
  set w' := { w with consumed := w.consumed ++ [(id, p.receipt.consumption)] }.enter id p
    (outcome answer w.consumed.length) with hw'
  have hgrows : Grows w w' := ⟨fun _ h => h, fun _ h => h, List.prefix_append ..⟩
  have hself : w'.calls id = some { p with stage := outcome answer w.consumed.length } := enter_self
  have hother : ∀ id', id' ≠ id → w'.calls id' = w.calls id' := fun id' hid => enter_other hid
  constructor
  · intro id' p' hcall
    by_cases hid : id' = id
    · subst hid
      cases hself.symm.trans hcall
      unfold CallSound
      rcases outcome_cases answer w.consumed.length with houtcome | ⟨e, houtcome⟩
      · simp only [houtcome]
        exact ⟨(hchecked.enter _).grows hgrows, List.getElem?_concat_length⟩
      · simp only [houtcome]
    · rw [hother id' hid] at hcall
      exact (h.calls id' p' hcall).grows hgrows
  · intro entry hentry
    rcases List.mem_append.mp hentry with hold | hnew
    · obtain ⟨p', hcall, hover, hchecked', hinput⟩ := h.consumed entry hold
      refine ⟨p', ?_, hover, hchecked'.grows hgrows, hinput⟩
      rw [hother _ (hnone entry hold)]
      exact hcall
    · obtain rfl := List.mem_singleton.mp hnew
      refine ⟨_, hself, ?_, (hchecked.enter _).grows hgrows, rfl⟩
      rcases outcome_cases answer w.consumed.length with houtcome | ⟨e, houtcome⟩
      · simp only [houtcome, Stage.isOver]
      · simp only [houtcome, Stage.isOver]
  · refine List.pairwise_append.mpr ⟨h.fresh, List.pairwise_singleton _ _, ?_⟩
    intro entry hentry new hnew
    obtain rfl := List.mem_singleton.mp hnew
    exact ⟨hnone entry hentry, hfresh entry hentry⟩

theorem WorldSound.consume (h : WorldSound host w) (hcall : w.calls id = some p)
    (hstage : p.stage = .consuming) (commits : Bool) (answer : Answer PolicyReplayResult) :
    WorldSound host (afterConsume w id p commits answer) := by
  have hchecked := h.calls id p hcall
  unfold CallSound at hchecked
  rw [hstage] at hchecked
  have hnone := h.not_consumed hcall (by rw [hstage]; rfl)
  unfold afterConsume
  split
  · rename_i hcontracted
    cases commits with
    | false =>
      refine h.enter (.refl w) rfl rfl hnone ?_
      -- Without a commit the guard does not accept.
      rcases outcome_cases answer w.consumed.length with houtcome | ⟨e, houtcome⟩
      · exact absurd houtcome (hcontracted.2 rfl)
      · unfold CallSound
        simp only [houtcome]
    | true => exact h.commit hchecked hnone (hcontracted.1 rfl) answer
  · exact h

theorem WorldSound.step (h : WorldSound host w) (a : Action) : WorldSound host (step host w a) := by
  cases a with
  | sign key receipt =>
    have hgrows : Grows w (App20.Policy.step host w (.sign key receipt)) :=
      ⟨fun _ h => List.mem_cons_of_mem _ h, fun _ h => h, List.prefix_rfl⟩
    refine ⟨fun id p hcall => (h.calls id p hcall).grows hgrows, fun entry hentry => ?_, h.fresh⟩
    obtain ⟨p, hcall, hover, hchecked, hinput⟩ := h.consumed entry hentry
    exact ⟨p, hcall, hover, hchecked.grows hgrows, hinput⟩
  | call id c =>
    simp only [App20.Policy.step]
    split
    · rename_i r e hnew hreview
      refine h.enter (.refl w) rfl rfl ?_ (reviewed_of_ok hreview)
      rintro entry hentry rfl
      obtain ⟨p, hcall, -⟩ := h.consumed entry hentry
      cases hnew.symm.trans hcall
    · exact h
  | attest id answer =>
    simp only [App20.Policy.step]
    split
    · rename_i p hwaiting
      obtain ⟨hcall, hstage⟩ := waiting_eq_some hwaiting
      exact h.attest hcall hstage answer
    · exact h
  | verify id answer =>
    simp only [App20.Policy.step]
    split
    · rename_i p hwaiting
      obtain ⟨hcall, hstage⟩ := waiting_eq_some hwaiting
      exact h.verify hcall hstage answer
    · exact h
  | consume id commits answer =>
    simp only [App20.Policy.step]
    split
    · rename_i p hwaiting
      obtain ⟨hcall, hstage⟩ := waiting_eq_some hwaiting
      exact h.consume hcall hstage commits answer
    · exact h

theorem worldSound_initial :
    WorldSound host initial := ⟨fun _ _ h => (nomatch h), fun _ h => (nomatch h), .nil⟩

theorem worldSound_run (as : List Action) : WorldSound host (run (step host) initial as) :=
  run_invariant (fun _ a h => h.step a) as worldSound_initial

/-! ## Approvals -/

theorem WorldSound.approved (h : WorldSound host w) (hcall : w.calls id = some p) {order : Nat}
    (hstage : p.stage = .approved order) :
    Checked host w p ∧ w.consumed[order]? = some (id, p.receipt.consumption) := by
  have hsound := h.calls id p hcall
  unfold CallSound at hsound
  rw [hstage] at hsound
  exact hsound

theorem WorldSound.later (h : WorldSound host w) {m n : Nat} (hlt : m < n)
    {a b : Nat × Consumption} (ha : w.consumed[m]? = some a) (hb : w.consumed[n]? = some b) :
    a.1 ≠ b.1 ∧ Fresh a.2 b.2 := by
  obtain ⟨hm, rfl⟩ := List.getElem?_eq_some_iff.mp ha
  obtain ⟨hn, rfl⟩ := List.getElem?_eq_some_iff.mp hb
  exact List.pairwise_iff_getElem.mp h.fresh m n hm hn hlt

/-- Every approval is for a receipt that its key signed, about the reviewed action, attested and in
time. Of two approvals neither the nonce nor the signature is the same, and within a scope the one
that was consumed later has the greater counter. Only calls whose checks have all passed consume. -/
theorem approvals_sound (host : Host) (as : List Action) :
    let w := run (step host) initial as
    (∀ id p order, w.calls id = some p → p.stage = .approved order → Checked host w p ∧
      ∀ id' p' order', id' ≠ id → w.calls id' = some p' → p'.stage = .approved order' →
        p'.receipt.nonce ≠ p.receipt.nonce ∧ p'.receipt.signature ≠ p.receipt.signature ∧
        order' ≠ order ∧ (SameScope p.receipt.consumption p'.receipt.consumption → order < order' →
            p.receipt.monotonicCounter.value < p'.receipt.monotonicCounter.value)) ∧
    (∀ entry ∈ w.consumed, ∃ p, w.calls entry.1 = some p ∧ Checked host w p ∧
      entry.2 = p.receipt.consumption) ∧
    ∀ value value' r r', assertPolicyReceipt value = .ok r → assertPolicyReceipt value' = .ok r' →
      policyReceiptSignedBytes r = policyReceiptSignedBytes r' → r.unsigned = r'.unsigned := by
  intro w
  have h : WorldSound host w := worldSound_run as
  refine ⟨fun id p order hcall hstage => ?_, fun entry hentry => ?_,
    fun _ _ _ _ _ _ => unsigned_of_signedBytes⟩
  · obtain ⟨hchecked, hentry⟩ := h.approved hcall hstage
    refine ⟨hchecked, fun id' p' order' hid hcall' hstage' => ?_⟩
    obtain ⟨-, hentry'⟩ := h.approved hcall' hstage'
    rcases lt_trichotomy order order' with hlt | rfl | hlt
    · obtain ⟨-, hnonce, hsignature, hcounter⟩ := h.later hlt hentry hentry'
      exact ⟨hnonce.symm, hsignature.symm, hlt.ne', fun hscope _ => (hcounter hscope).2⟩
    · have hsame := Option.some.inj (hentry.symm.trans hentry')
      exact absurd (congrArg Prod.fst hsame).symm hid
    · obtain ⟨-, hnonce, hsignature, -⟩ := h.later hlt hentry' hentry
      exact ⟨hnonce, hsignature, hlt.ne, fun _ hgt => absurd hgt (Nat.lt_asymm hlt)⟩
  · obtain ⟨p, hcall, -, hchecked, hinput⟩ := h.consumed entry hentry
    exact ⟨p, hcall, hchecked, hinput⟩

end App20.Policy
