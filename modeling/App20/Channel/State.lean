import App20.Channel.Documents

/-!
# Relationship channels

A channel is opened by a signed invitation, activated and rotated by epochs that both parties
signed, used by messages within its quota, and terminated. An operation that is rejected throws; the
state is a value, and stays what it was.

* `verifyEpoch_ok`: what a verified epoch says.
* `activate_ok`, `consume_cases`, `terminate_cases`: what the operations do.
-/

namespace App20.Channel

open App20.Lib App20.Domain
open App20.Intents (Hash field)
open App20.Reservation (maxSafeInteger)

variable {host : Host}

/-! ## Invitations -/

def channelInvitationDomain : Text := "app20/relationship-channel-invitation/v1".toList
def channelSignatureDomain : Text := "app20/relationship-channel-signature/v1".toList
def channelMaxInvitationLifetimeMs : Int := 7 * 24 * 60 * 60 * 1000
def channelMaxMessages : Int := 10000
def channelMaxTotalBytes : Int := 50 * 1024 * 1024
def channelMaxMessageBytes : Int := 64 * 1024

structure RelationshipChannelInvitationV1 where
  invitationId : Text
  channelId : Text
  inviterBindingDigest : Text
  inviteeBindingDigest : Text
  inviterHandshakeKey : Text
  relayCapability : Text
  issuedAt : Int
  expiresAt : Int
  maxMessages : Int
  maxTotalBytes : Int

def normalizeRelationshipChannelInvitation (value : Option Json) :
    Except String RelationshipChannelInvitationV1 := do
  let invitation ← assertRecord value "Relationship-channel invitation"
  assertExactKeys invitation ["domain", "version", "invitationId", "channelId",
    "inviterBindingDigest", "inviteeBindingDigest", "inviterHandshakeKey", "relayCapability",
    "issuedAt", "expiresAt", "quota"] "Relationship-channel invitation"
  throwIf (isDomain invitation channelInvitationDomain = false)
    "Relationship-channel invitation domain or version is invalid."
  let issuedAt ← timestamp (invitation.get? "issuedAt") "Invitation issue time"
  let expiresAt ← timestamp (invitation.get? "expiresAt") "Invitation expiry"
  throwIf (expiresAt ≤ issuedAt ∨ channelMaxInvitationLifetimeMs < expiresAt - issuedAt)
    "Relationship-channel invitation lifetime is invalid."
  let quota ← assertRecord (invitation.get? "quota") "Relationship-channel quota"
  assertExactKeys quota ["maxMessages", "maxTotalBytes"] "Relationship-channel quota"
  let invitationId ← hex32 (invitation.get? "invitationId") "Invitation id"
  let channelId ← hex32 (invitation.get? "channelId") "Channel id"
  let inviterBindingDigest ←
    sha256Digest (invitation.get? "inviterBindingDigest") "Inviter binding digest"
  let inviteeBindingDigest ←
    sha256Digest (invitation.get? "inviteeBindingDigest") "Invitee binding digest"
  let inviterHandshakeKey ←
    bareHex32 (invitation.get? "inviterHandshakeKey") "Inviter handshake key"
  let relayCapability ← hex32 (invitation.get? "relayCapability") "Relay capability"
  let maxMessages ←
    boundedInteger (quota.get? "maxMessages") "Channel message quota" 1 channelMaxMessages
  let maxTotalBytes ←
    boundedInteger (quota.get? "maxTotalBytes") "Channel byte quota" 1 channelMaxTotalBytes
  return ⟨invitationId, channelId, inviterBindingDigest, inviteeBindingDigest, inviterHandshakeKey,
    relayCapability, issuedAt, expiresAt, maxMessages, maxTotalBytes⟩

def RelationshipChannelInvitationV1.tree (i : RelationshipChannelInvitationV1) : Tree :=
  .object [field "channelId" (.text i.channelId), field "domain" (.text channelInvitationDomain),
    field "expiresAt" (.number i.expiresAt), field "invitationId" (.text i.invitationId),
    field "inviteeBindingDigest" (.text i.inviteeBindingDigest),
    field "inviterBindingDigest" (.text i.inviterBindingDigest),
    field "inviterHandshakeKey" (.text i.inviterHandshakeKey),
    field "issuedAt" (.number i.issuedAt),
    field "quota" (.object [field "maxMessages" (.number i.maxMessages),
      field "maxTotalBytes" (.number i.maxTotalBytes)]),
    field "relayCapability" (.text i.relayCapability), field "version" (.number 1)]

def relationshipChannelInvitationDigest (host : Host) (i : RelationshipChannelInvitationV1) : Text :=
  digestBytes host i.tree.render

def channelSignatureMessage (host : Host) (invitationDigest authPublicKey : Text) :
    List (Fin 256) :=
  (host.sha256 (Tree.object [field "authPublicKey" (.text authPublicKey),
    field "domain" (.text channelSignatureDomain),
    field "invitationDigest" (.text invitationDigest),
    field "version" (.number 1)]).render).toList

structure SignedRelationshipChannelInvitationV1 where
  invitation : RelationshipChannelInvitationV1
  invitationDigest : Text
  authPublicKey : Text
  signature : Text

/-- Whatever is thrown counts as no invitation. -/
def verifyRelationshipChannelInvitation (host : Host) (value : Json) (bindings : Bindings host) :
    Option SignedRelationshipChannelInvitationV1 := do
  let signed ← (assertRecord (some value) "Signed relationship-channel invitation").toOption
  guard (signed.keys.isPerm ["version", "invitation", "invitationDigest", "authPublicKey",
    "signature"] = true)
  guard (isVersion1 (signed.get? "version") = true)
  let authPublicKey ← lowerText (signed.get? "authPublicKey")
  let signature ← lowerText (signed.get? "signature")
  guard (isLowerHex 64 authPublicKey = true ∧ isLowerHex 128 signature = true)
  let invitation ← (normalizeRelationshipChannelInvitation (signed.get? "invitation")).toOption
  let invitationDigest := relationshipChannelInvitationDigest host invitation
  let stated ← (sha256Digest (signed.get? "invitationDigest") "Invitation digest").toOption
  guard (stated = invitationDigest ∧
    invitation.inviterBindingDigest = bindings.inviter.1.certificateDigest ∧
    invitation.inviteeBindingDigest = bindings.invitee.1.certificateDigest ∧
    authPublicKey = bindings.inviter.1.certificate.statement.authPublicKey ∧
    host.verify (hexToBytes signature) (channelSignatureMessage host invitationDigest authPublicKey)
      (hexToBytes authPublicKey) = true)
  return ⟨invitation, invitationDigest, authPublicKey, signature⟩

theorem boundedInteger_ok {value : Option Json} {label : String} {minimum maximum n : Int}
    (h : boundedInteger value label minimum maximum = .ok n) :
    value = some (.number n) ∧ minimum ≤ n := by
  unfold boundedInteger at h
  split at h
  · split at h
    · rename_i hrange
      cases h
      exact ⟨rfl, hrange.2.2.1⟩
    · cases h
  · cases h

theorem verifyInvitation_quota {value : Json} {bindings : Bindings host}
    {signed : SignedRelationshipChannelInvitationV1}
    (h : verifyRelationshipChannelInvitation host value bindings = some signed) :
    1 ≤ signed.invitation.maxMessages ∧ 1 ≤ signed.invitation.maxTotalBytes := by
  simp only [verifyRelationshipChannelInvitation, Option.bind_eq_bind, Option.bind_eq_some_iff,
    Option.guard_eq_some', Option.pure_def, Option.some.injEq] at h
  obtain ⟨record, -, -, -, -, -, authPublicKey, -, signature, -, -, -, invitation, hinvitation,
    stated, -, -, -, rfl⟩ := h
  have hok : normalizeRelationshipChannelInvitation (record.get? "invitation") = .ok invitation := by
    cases hnormal : normalizeRelationshipChannelInvitation (record.get? "invitation") with
    | error e =>
      rw [hnormal] at hinvitation
      cases hinvitation
    | ok i =>
      rw [hnormal] at hinvitation
      cases hinvitation
      rfl
  simp only [normalizeRelationshipChannelInvitation, bind_ok, pure_ok] at hok
  obtain ⟨_, -, _, -, _, -, _, -, _, -, _, -, _, -, _, -, _, -, _, -, _, -, _, -, _, -, _, -,
    maxMessages, hmessages, maxTotalBytes, htotal, rfl⟩ := hok
  exact ⟨(boundedInteger_ok hmessages).2, (boundedInteger_ok htotal).2⟩

/-! ## Epochs -/

def channelEpochDomain : Text := "app20/relationship-channel-epoch/v1".toList
def channelEpochSignatureDomain : Text := "app20/relationship-channel-epoch-signature/v1".toList
def channelSuite : Text := "Double-Ratchet/X25519/HKDF-SHA256/AES-256-GCM".toList

structure RelationshipChannelEpochV1 where
  channelId : Text
  epoch : Int
  previousEpochDigest : Option Text
  initiatorKey : Text
  responderKey : Text
  rootKeyCommitment : Text
  createdAt : Int
  expiresAt : Int

/-- A digest, or `null`. -/
def previousDigest (value : Option Json) : Except String (Option Text) :=
  match value with
  | some .null => .ok none
  | value => (sha256Digest value "Previous channel epoch digest").map some

def isText (value : Option Json) (text : Text) : Bool :=
  match value with
  | some (.string s) => s = text
  | _ => false

def normalizeRelationshipChannelEpoch (value : Option Json) :
    Except String RelationshipChannelEpochV1 := do
  let epoch ← assertRecord value "Relationship-channel epoch"
  assertExactKeys epoch ["domain", "version", "channelId", "epoch", "previousEpochDigest",
    "initiatorKey", "responderKey", "rootKeyCommitment", "suite", "createdAt", "expiresAt"]
    "Relationship-channel epoch"
  throwIf (isDomain epoch channelEpochDomain = false ∨
      isText (epoch.get? "suite") channelSuite = false)
    "Relationship-channel epoch suite, domain, or version is invalid."
  let createdAt ← timestamp (epoch.get? "createdAt") "Channel epoch creation time"
  let expiresAt ← timestamp (epoch.get? "expiresAt") "Channel epoch expiry"
  throwIf (expiresAt ≤ createdAt) "Relationship-channel epoch expiry is invalid."
  let channelId ← hex32 (epoch.get? "channelId") "Channel id"
  let number ← boundedInteger (epoch.get? "epoch") "Channel epoch" 1 maxSafeInteger
  let previousEpochDigest ← previousDigest (epoch.get? "previousEpochDigest")
  let initiatorKey ← bareHex32 (epoch.get? "initiatorKey") "Channel initiator key"
  let responderKey ← bareHex32 (epoch.get? "responderKey") "Channel responder key"
  let rootKeyCommitment ←
    sha256Digest (epoch.get? "rootKeyCommitment") "Channel root-key commitment"
  return ⟨channelId, number, previousEpochDigest, initiatorKey, responderKey, rootKeyCommitment,
    createdAt, expiresAt⟩

def RelationshipChannelEpochV1.tree (e : RelationshipChannelEpochV1) : Tree :=
  .object [field "channelId" (.text e.channelId), field "createdAt" (.number e.createdAt),
    field "domain" (.text channelEpochDomain), field "epoch" (.number e.epoch),
    field "expiresAt" (.number e.expiresAt), field "initiatorKey" (.text e.initiatorKey),
    field "previousEpochDigest" (e.previousEpochDigest.elim .null .text),
    field "responderKey" (.text e.responderKey),
    field "rootKeyCommitment" (.text e.rootKeyCommitment), field "suite" (.text channelSuite),
    field "version" (.number 1)]

def relationshipChannelEpochDigest (host : Host) (e : RelationshipChannelEpochV1) : Text :=
  digestBytes host e.tree.render

inductive Role where
  | initiator | responder

def Role.name : Role → Text
  | .initiator => "initiator".toList
  | .responder => "responder".toList

def channelEpochSignatureMessage (host : Host) (epochDigest authPublicKey : Text) (role : Role) :
    List (Fin 256) :=
  (host.sha256 (Tree.object [field "authPublicKey" (.text authPublicKey),
    field "domain" (.text channelEpochSignatureDomain), field "epochDigest" (.text epochDigest),
    field "role" (.text role.name), field "version" (.number 1)]).render).toList

structure SignedRelationshipChannelEpochV1 where
  epoch : RelationshipChannelEpochV1
  epochDigest : Text
  initiatorAuthPublicKey : Text
  initiatorSignature : Text
  responderAuthPublicKey : Text
  responderSignature : Text

/-- Whatever is thrown counts as no epoch. -/
def verifyRelationshipChannelEpoch (host : Host) (value : Json) (bindings : Bindings host) :
    Option SignedRelationshipChannelEpochV1 := do
  let signed ← (assertRecord (some value) "Signed relationship-channel epoch").toOption
  guard (signed.keys.isPerm ["version", "epoch", "epochDigest", "initiatorAuthPublicKey",
    "initiatorSignature", "responderAuthPublicKey", "responderSignature"] = true)
  guard (isVersion1 (signed.get? "version") = true)
  let initiatorAuthPublicKey ← lowerText (signed.get? "initiatorAuthPublicKey")
  let responderAuthPublicKey ← lowerText (signed.get? "responderAuthPublicKey")
  let initiatorSignature ← lowerText (signed.get? "initiatorSignature")
  let responderSignature ← lowerText (signed.get? "responderSignature")
  let epoch ← (normalizeRelationshipChannelEpoch (signed.get? "epoch")).toOption
  let epochDigest := relationshipChannelEpochDigest host epoch
  let stated ← (sha256Digest (signed.get? "epochDigest") "Channel epoch digest").toOption
  guard (stated = epochDigest ∧
    initiatorAuthPublicKey = bindings.inviter.1.certificate.statement.authPublicKey ∧
    responderAuthPublicKey = bindings.invitee.1.certificate.statement.authPublicKey ∧
    isLowerHex 128 initiatorSignature = true ∧ isLowerHex 128 responderSignature = true ∧
    host.verify (hexToBytes initiatorSignature)
      (channelEpochSignatureMessage host epochDigest initiatorAuthPublicKey .initiator)
      (hexToBytes initiatorAuthPublicKey) = true ∧ host.verify (hexToBytes responderSignature)
      (channelEpochSignatureMessage host epochDigest responderAuthPublicKey .responder)
      (hexToBytes responderAuthPublicKey) = true)
  return ⟨epoch, epochDigest, initiatorAuthPublicKey, initiatorSignature, responderAuthPublicKey,
    responderSignature⟩

theorem verifyEpoch_ok {value : Json} {bindings : Bindings host}
    {signed : SignedRelationshipChannelEpochV1}
    (h : verifyRelationshipChannelEpoch host value bindings = some signed) :
    signed.epochDigest = relationshipChannelEpochDigest host signed.epoch ∧
      signed.initiatorAuthPublicKey = bindings.inviter.1.certificate.statement.authPublicKey ∧
      signed.responderAuthPublicKey = bindings.invitee.1.certificate.statement.authPublicKey := by
  simp only [verifyRelationshipChannelEpoch, Option.bind_eq_bind, Option.bind_eq_some_iff,
    Option.guard_eq_some', Option.pure_def, Option.some.injEq] at h
  obtain ⟨record, -, -, -, -, -, initiatorKey, -, responderKey, -, initiatorSignature, -,
    responderSignature, -, epoch, -, stated, -, -, ⟨-, hinitiator, hresponder, -⟩, rfl⟩ := h
  exact ⟨rfl, hinitiator, hresponder⟩

/-! ## The state -/

inductive ChannelStatus where
  | invited | active | blocked | reported | revoked | expired
  deriving DecidableEq

structure RelationshipChannelStateV1 where
  channelId : Text
  invitationDigest : Text
  inviterBindingDigest : Text
  inviteeBindingDigest : Text
  revocationSnapshotDigest : Text
  status : ChannelStatus
  activeEpoch : Int
  activeEpochDigest : Option Text
  nextSequence : Int
  messagesUsed : Int
  bytesUsed : Int
  maxMessages : Int
  maxTotalBytes : Int
  expiresAt : Int
  reportDigest : Option Text
  deriving DecidableEq

/-- The revocations that are known now. -/
structure Revocations where
  revokedIds : List Text
  snapshotDigest : Json

structure ChannelMessageUse where
  sequence : Json
  ciphertextBytes : Json
  sentAt : Json

/-- The binding was issued, and has neither expired nor been revoked. -/
def assertCurrent (binding : Binding host) (time : Int) (revocations : Revocations)
    (message : String) : Except String Unit :=
  throwIf (time < binding.1.certificate.statement.issuedAt ∨
    binding.1.certificate.statement.expiresAt < time ∨
    binding.1.certificate.statement.revocationId ∈ revocations.revokedIds) message

def openRelationshipChannel (host : Host) (value : Json) (acceptedAt : Json)
    (bindings : Bindings host) (currentRevocations : Revocations) :
    Except String RelationshipChannelStateV1 := do
  throwIf (bindings.inviter.1.revocationSnapshotDigest ≠
      bindings.invitee.1.revocationSnapshotDigest)
    "Relationship-channel bindings are not jointly verified."
  match verifyRelationshipChannelInvitation host value bindings with
  | none => .error "Relationship-channel invitation is invalid."
  | some signed =>
    let now ← timestamp (some acceptedAt) "Channel acceptance time"
    let revocationSnapshotDigest ←
      sha256Digest (some currentRevocations.snapshotDigest) "Current revocation snapshot digest"
    assertCurrent bindings.inviter now currentRevocations
      "Relationship-channel binding is expired or revoked."
    assertCurrent bindings.invitee now currentRevocations
      "Relationship-channel binding is expired or revoked."
    throwIf (now < signed.invitation.issuedAt ∨ signed.invitation.expiresAt < now)
      "Relationship-channel invitation is not currently valid."
    return {
      channelId := signed.invitation.channelId
      invitationDigest := signed.invitationDigest
      inviterBindingDigest := bindings.inviter.1.certificateDigest
      inviteeBindingDigest := bindings.invitee.1.certificateDigest
      revocationSnapshotDigest
      status := .invited
      activeEpoch := 0
      activeEpochDigest := none
      nextSequence := 0
      messagesUsed := 0
      bytesUsed := 0
      maxMessages := signed.invitation.maxMessages
      maxTotalBytes := signed.invitation.maxTotalBytes
      expiresAt := signed.invitation.expiresAt
      reportDigest := none }

def activateRelationshipChannelEpoch (host : Host) (state : RelationshipChannelStateV1)
    (value : Json) (bindings : Bindings host) (currentRevocations : Revocations) :
    Except String RelationshipChannelStateV1 := do
  throwIf (state.status ≠ .active ∧ ¬ (state.status = .invited ∧ state.activeEpoch = 0))
    "Only an invited or active relationship channel can rotate keys."
  throwIf (state.inviterBindingDigest ≠ bindings.inviter.1.certificateDigest ∨
      state.inviteeBindingDigest ≠ bindings.invitee.1.certificateDigest)
    "Relationship-channel epoch bindings changed."
  match verifyRelationshipChannelEpoch host value bindings with
  | none => .error "Relationship-channel epoch signatures are invalid."
  | some signed =>
    let epoch := signed.epoch
    let revocationSnapshotDigest ←
      sha256Digest (some currentRevocations.snapshotDigest) "Current revocation snapshot digest"
    assertCurrent bindings.inviter epoch.createdAt currentRevocations
      "Relationship-channel epoch uses an expired or revoked binding."
    assertCurrent bindings.invitee epoch.createdAt currentRevocations
      "Relationship-channel epoch uses an expired or revoked binding."
    throwIf (epoch.channelId ≠ state.channelId ∨ epoch.epoch ≠ state.activeEpoch + 1 ∨
        epoch.previousEpochDigest ≠ state.activeEpochDigest ∨ state.expiresAt < epoch.expiresAt)
      "Relationship-channel epoch continuity is invalid."
    return { state with
      status := .active
      revocationSnapshotDigest
      activeEpoch := epoch.epoch
      activeEpochDigest := some signed.epochDigest }

/-- `use.sequence === state.nextSequence` -/
def isNumber (value : Json) (n : Int) : Bool :=
  match value with
  | .number m => m = n
  | _ => false

/-- The state after a message of this size. -/
def RelationshipChannelStateV1.accept (state : RelationshipChannelStateV1)
    (ciphertextBytes : Int) : RelationshipChannelStateV1 :=
  { state with
    nextSequence := state.nextSequence + 1
    messagesUsed := state.messagesUsed + 1
    bytesUsed := state.bytesUsed + ciphertextBytes }

def consumeRelationshipChannelQuota (state : RelationshipChannelStateV1)
    (use : ChannelMessageUse) : Except String RelationshipChannelStateV1 := do
  throwIf (state.status ≠ .active ∨ state.activeEpoch = 0)
    "Relationship channel is not active with a key epoch."
  let sentAt ← timestamp (some use.sentAt) "Channel message time"
  let ciphertextBytes ← boundedInteger (some use.ciphertextBytes) "Channel ciphertext size" 1
    channelMaxMessageBytes
  if state.expiresAt < sentAt then return { state with status := .expired }
  else
    throwIf (isNumber use.sequence state.nextSequence = false)
      "Relationship-channel message sequence is invalid or replayed."
    throwIf (state.maxMessages < state.messagesUsed + 1 ∨
        state.maxTotalBytes < state.bytesUsed + ciphertextBytes)
      "Relationship-channel invitation quota is exhausted."
    return state.accept ciphertextBytes

inductive TerminateAction where
  | block
  | revoke
  | report (evidenceDigest : Json)

def terminateRelationshipChannel (state : RelationshipChannelStateV1) (action : TerminateAction) :
    Except String RelationshipChannelStateV1 := do
  throwIf (state.status ≠ .active) "Relationship channel is already terminal."
  match action with
  | .report evidenceDigest =>
    let reportDigest ← sha256Digest (some evidenceDigest) "Report evidence digest"
    return { state with status := .reported, reportDigest := some reportDigest }
  | .block => return { state with status := .blocked }
  | .revoke => return { state with status := .revoked }

/-! ## What the operations do -/

variable {state state' : RelationshipChannelStateV1}

structure Continues (host : Host) (state : RelationshipChannelStateV1) (bindings : Bindings host)
    (signed : SignedRelationshipChannelEpochV1) : Prop where
  status : state.status = .active ∨ state.status = .invited
  inviter : bindings.inviter.1.certificateDigest = state.inviterBindingDigest
  invitee : bindings.invitee.1.certificateDigest = state.inviteeBindingDigest
  channel : signed.epoch.channelId = state.channelId
  number : signed.epoch.epoch = state.activeEpoch + 1
  previous : signed.epoch.previousEpochDigest = state.activeEpochDigest
  digest : signed.epochDigest = relationshipChannelEpochDigest host signed.epoch
  initiator : signed.initiatorAuthPublicKey = bindings.inviter.1.certificate.statement.authPublicKey
  responder : signed.responderAuthPublicKey = bindings.invitee.1.certificate.statement.authPublicKey

theorem activate_ok {value : Json} {bindings : Bindings host} {revocations : Revocations}
    (h : activateRelationshipChannelEpoch host state value bindings revocations = .ok state') :
    ∃ signed snapshot, verifyRelationshipChannelEpoch host value bindings = some signed ∧
      Continues host state bindings signed ∧
      state' = { state with status := .active, revocationSnapshotDigest := snapshot,
                            activeEpoch := signed.epoch.epoch,
                            activeEpochDigest := some signed.epochDigest } := by
  simp only [activateRelationshipChannelEpoch, bind_ok, throwIf_ok, exists_unit] at h
  obtain ⟨hstatus, hbindings, h⟩ := h
  split at h
  · cases h
  · rename_i signed hsigned
    simp only [bind_ok, throwIf_ok, exists_unit, not_or, not_not] at h
    obtain ⟨snapshot, -, -, -, ⟨hchannel, hnumber, hprevious, -⟩, h⟩ := h
    cases h
    obtain ⟨hdigest, hinitiator, hresponder⟩ := verifyEpoch_ok hsigned
    rw [not_or, not_not, not_not] at hbindings
    refine ⟨signed, snapshot, hsigned, ⟨?_, hbindings.1.symm, hbindings.2.symm, hchannel, hnumber,
      hprevious, hdigest, hinitiator, hresponder⟩, rfl⟩
    by_contra hneither
    rw [not_or] at hneither
    exact hstatus ⟨hneither.1, fun hinvited => hneither.2 hinvited.1⟩

/-- A message expires the channel, or is counted within the quota. -/
theorem consume_cases {use : ChannelMessageUse}
    (h : consumeRelationshipChannelQuota state use = .ok state') :
    state.status = .active ∧ (state' = { state with status := .expired } ∨
      ∃ bytes, use.ciphertextBytes = .number bytes ∧ 0 < bytes ∧
        use.sequence = .number state.nextSequence ∧ state.messagesUsed + 1 ≤ state.maxMessages ∧
        state.bytesUsed + bytes ≤ state.maxTotalBytes ∧ state' = state.accept bytes) := by
  simp only [consumeRelationshipChannelQuota, bind_ok, throwIf_ok, exists_unit,
    not_or, not_not] at h
  obtain ⟨⟨hactive, -⟩, sentAt, -, bytes, hbytes, h⟩ := h
  refine ⟨hactive, ?_⟩
  obtain ⟨hnumber, hpositive⟩ := boundedInteger_ok hbytes
  split at h
  · cases h
    exact .inl rfl
  · simp only [bind_ok, throwIf_ok, exists_unit, not_or, not_lt] at h
    obtain ⟨hsequence, ⟨hmessages, htotal⟩, h⟩ := h
    cases h
    refine .inr ⟨bytes, Option.some.inj hnumber, hpositive, ?_, hmessages, htotal, rfl⟩
    unfold isNumber at hsequence
    split at hsequence
    · rename_i m hm
      rw [Bool.not_eq_false, decide_eq_true_eq] at hsequence
      rw [hm, hsequence]
    · exact absurd rfl hsequence

theorem terminate_cases {action : TerminateAction}
    (h : terminateRelationshipChannel state action = .ok state') :
    state.status = .active ∧ ∃ status report, status ∉ [ChannelStatus.invited, .active] ∧
      state' = { state with status := status, reportDigest := report } := by
  simp only [terminateRelationshipChannel, bind_ok, throwIf_ok, exists_unit, not_not] at h
  obtain ⟨hactive, h⟩ := h
  refine ⟨hactive, ?_⟩
  split at h
  · simp only [bind_ok] at h
    obtain ⟨digest, -, h⟩ := h
    cases h
    exact ⟨.reported, some digest, by decide, rfl⟩
  · cases h
    exact ⟨.blocked, state.reportDigest, by decide, rfl⟩
  · cases h
    exact ⟨.revoked, state.reportDigest, by decide, rfl⟩

end App20.Channel
