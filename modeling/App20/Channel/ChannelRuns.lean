import App20.Channel.State
import App20.Lib.Run

/-!
# Runs of a relationship channel

A channel from its opening on, under any documents and times. Beside the state stand the epochs and
the sizes of the messages that were accepted, and the bindings they were accepted with.

* `ChannelLawful`: the epochs form a chain, and the counters count the messages within the quota.
* `channel_lawful`: this holds of every run, a terminated channel accepts nothing, and the parties of
  the channel stay the same.
-/

namespace App20.Channel

open App20.Lib App20.Domain

variable {host : Host}

/-! ## Steps -/

structure Sys (host : Host) where
  state : RelationshipChannelStateV1
  epochs : List RelationshipChannelEpochV1
  sizes : List Int
  bindings : List (Bindings host)

inductive Action (host : Host) where
  | activate (value : Json) (bindings : Bindings host) (revocations : Revocations)
  | consume (use : ChannelMessageUse)
  | terminate (action : TerminateAction)

/-- The state after an operation, or the error. -/
def perform (host : Host) (state : RelationshipChannelStateV1) :
    Action host → Except String RelationshipChannelStateV1
  | .activate value bindings revocations =>
    activateRelationshipChannelEpoch host state value bindings revocations
  | .consume use => consumeRelationshipChannelQuota state use
  | .terminate action => terminateRelationshipChannel state action

def acceptedSize (state' : RelationshipChannelStateV1) (use : ChannelMessageUse) : List Int :=
  match use.ciphertextBytes with
  | .number bytes => if state'.status = .active then [bytes] else []
  | _ => []

def step (host : Host) (s : Sys host) (a : Action host) : Sys host :=
  match perform host s.state a with
  | .error _ => s
  | .ok state' =>
    match a with
    | .activate value bindings _ =>
      ⟨state', s.epochs ++
        (verifyRelationshipChannelEpoch host value bindings).toList.map (·.epoch), s.sizes,
        s.bindings ++ [bindings]⟩
    | .consume use => ⟨state', s.epochs, s.sizes ++ acceptedSize state' use, s.bindings⟩
    | .terminate _ => ⟨state', s.epochs, s.sizes, s.bindings⟩

def opened (first : RelationshipChannelStateV1) (bindings : Bindings host) : Sys host :=
  ⟨first, [], [], [bindings]⟩

/-! ## Chains of epochs -/

/-- Epochs that are numbered from `number` on, each with the digest of the one before. -/
def Chained (host : Host) (channelId : Text) : Int → Option Text →
    List RelationshipChannelEpochV1 → Prop
  | _, _, [] => True
  | number, previous, e :: es => e.channelId = channelId ∧ e.epoch = number ∧
    e.previousEpochDigest = previous ∧
    Chained host channelId (number + 1) (some (relationshipChannelEpochDigest host e)) es

def lastDigest (host : Host) (previous : Option Text) (epochs : List RelationshipChannelEpochV1) :
    Option Text :=
  match epochs.getLast? with
  | some e => some (relationshipChannelEpochDigest host e)
  | none => previous

theorem Chained.append {channelId : Text} {number : Int} {previous : Option Text}
    {es : List RelationshipChannelEpochV1} {e : RelationshipChannelEpochV1}
    (h : Chained host channelId number previous es) (hchannel : e.channelId = channelId)
    (hnumber : e.epoch = number + es.length)
    (hprevious : e.previousEpochDigest = lastDigest host previous es) :
    Chained host channelId number previous (es ++ [e]) := by
  induction es generalizing number previous with
  | nil => exact ⟨hchannel, hnumber.trans (add_zero number), hprevious, trivial⟩
  | cons d es ih =>
    obtain ⟨hd, hn, hp, hrest⟩ := h
    refine ⟨hd, hn, hp, ih hrest ?_ ?_⟩
    · rw [hnumber, List.length_cons]
      push_cast
      omega
    · rw [hprevious]
      unfold lastDigest
      rw [List.getLast?_cons]
      cases es.getLast? <;> rfl

/-! ## The invariant -/

/-- What does not change from the opening on. -/
structure ChannelIdentity where
  channelId : Text
  invitationDigest : Text
  inviterBindingDigest : Text
  inviteeBindingDigest : Text
  maxMessages : Int
  maxTotalBytes : Int
  expiresAt : Int

def RelationshipChannelStateV1.identity (s : RelationshipChannelStateV1) : ChannelIdentity :=
  ⟨s.channelId, s.invitationDigest, s.inviterBindingDigest, s.inviteeBindingDigest, s.maxMessages,
    s.maxTotalBytes, s.expiresAt⟩

structure ChannelLawful (first : RelationshipChannelStateV1) (opening : Bindings host)
    (s : Sys host) : Prop where
  identity : s.state.identity = first.identity
  chained : Chained host first.channelId 1 none s.epochs
  activeEpoch : s.state.activeEpoch = s.epochs.length
  activeEpochDigest : s.state.activeEpochDigest = lastDigest host none s.epochs
  sequence : s.state.nextSequence = s.state.messagesUsed
  messages : s.state.messagesUsed = s.sizes.length
  bytes : s.state.bytesUsed = s.sizes.sum
  messageQuota : s.state.messagesUsed ≤ s.state.maxMessages
  byteQuota : s.state.bytesUsed ≤ s.state.maxTotalBytes
  opening : opening ∈ s.bindings
  bindings : ∀ b ∈ s.bindings, b.inviter.1.certificateDigest = first.inviterBindingDigest ∧
    b.invitee.1.certificateDigest = first.inviteeBindingDigest

theorem ChannelLawful.step {first : RelationshipChannelStateV1} {opening : Bindings host}
    {s : Sys host} (h : ChannelLawful first opening s) (a : Action host) :
    ChannelLawful first opening (step host s a) := by
  unfold Channel.step
  split
  · exact h
  · rename_i state' hperform
    cases a with
    | activate value bindings revocations =>
      obtain ⟨signed, snapshot, hsigned, hcontinues, rfl⟩ := activate_ok hperform
      dsimp only
      rw [hsigned]
      have hnumber : signed.epoch.epoch = 1 + s.epochs.length := by
        rw [hcontinues.number, h.activeEpoch]
        exact Int.add_comm _ _
      refine ⟨h.identity, ?_, ?_, ?_, h.sequence, h.messages, h.bytes, h.messageQuota, h.byteQuota,
        List.mem_append_left _ h.opening, fun b hb => ?_⟩
      · exact h.chained.append
          (hcontinues.channel.trans (congrArg ChannelIdentity.channelId h.identity)) hnumber
          (hcontinues.previous.trans h.activeEpochDigest)
      · change signed.epoch.epoch = ((s.epochs ++ [signed.epoch]).length : Int)
        rw [hnumber, List.length_append, List.length_singleton]
        push_cast
        omega
      · change some signed.epochDigest = lastDigest host none (s.epochs ++ [signed.epoch])
        unfold lastDigest
        rw [List.getLast?_append, List.getLast?_singleton, Option.some_or, hcontinues.digest]
      · rcases List.mem_append.mp hb with hb | hb
        · exact h.bindings b hb
        · rw [List.mem_singleton.mp hb]
          exact ⟨hcontinues.inviter.trans
              (congrArg ChannelIdentity.inviterBindingDigest h.identity),
            hcontinues.invitee.trans (congrArg ChannelIdentity.inviteeBindingDigest h.identity)⟩
    | consume use =>
      obtain ⟨hactive, rfl | ⟨bytes, hbytes, -, -, hmessages, htotal, rfl⟩⟩ :=
        consume_cases hperform
      · have hnone : acceptedSize { s.state with status := .expired } use = [] := by
          unfold acceptedSize
          split
          · rfl
          · rfl
        dsimp only
        rw [hnone, List.append_nil]
        exact ⟨h.identity, h.chained, h.activeEpoch, h.activeEpochDigest, h.sequence, h.messages,
          h.bytes, h.messageQuota, h.byteQuota, h.opening, h.bindings⟩
      · have hone : acceptedSize (s.state.accept bytes) use = [bytes] := by
          unfold acceptedSize
          rw [hbytes]
          exact if_pos hactive
        dsimp only
        rw [hone]
        refine ⟨h.identity, h.chained, h.activeEpoch, h.activeEpochDigest, ?_, ?_, ?_, hmessages,
          htotal, h.opening, h.bindings⟩
        · exact congrArg (· + 1) h.sequence
        · change s.state.messagesUsed + 1 = ((s.sizes ++ [bytes]).length : Int)
          rw [h.messages, List.length_append, List.length_singleton]
          push_cast
          rfl
        · change s.state.bytesUsed + bytes = (s.sizes ++ [bytes]).sum
          rw [h.bytes, List.sum_append, List.sum_singleton]
    | terminate action =>
      obtain ⟨-, status, report, -, rfl⟩ := terminate_cases hperform
      exact ⟨h.identity, h.chained, h.activeEpoch, h.activeEpochDigest, h.sequence, h.messages,
        h.bytes, h.messageQuota, h.byteQuota, h.opening, h.bindings⟩

/-! ## Runs -/

variable {first : RelationshipChannelStateV1} {value acceptedAt : Json} {bindings : Bindings host}
  {revocations : Revocations}

theorem lawful_opened
    (h : openRelationshipChannel host value acceptedAt bindings revocations = .ok first) :
    ChannelLawful first bindings (opened first bindings) := by
  simp only [openRelationshipChannel, bind_ok] at h
  obtain ⟨-, -, h⟩ := h
  split at h
  · cases h
  · rename_i signed hsigned
    obtain ⟨hmessages, htotal⟩ := verifyInvitation_quota hsigned
    simp only [bind_ok] at h
    obtain ⟨now, -, snapshot, -, -, -, -, -, -, -, h⟩ := h
    cases h
    refine ⟨rfl, trivial, rfl, rfl, rfl, rfl, rfl, ?_, ?_, List.mem_singleton_self _, fun b hb => ?_⟩
    · exact le_trans Int.one_nonneg hmessages
    · exact le_trans Int.one_nonneg htotal
    · rw [List.mem_singleton.mp hb]
      exact ⟨rfl, rfl⟩

/-- A channel that was terminated, or has expired, accepts nothing. -/
theorem terminal_rejects {state : RelationshipChannelStateV1}
    (h : state.status ∉ [ChannelStatus.invited, .active]) (a : Action host) :
    ∃ e, perform host state a = .error e := by
  rcases except_ok_or_error (perform host state a) with ⟨state', hok⟩ | herror
  · exfalso
    apply h
    cases a with
    | activate value bindings revocations =>
      obtain ⟨signed, snapshot, -, hcontinues, -⟩ := activate_ok hok
      rcases hcontinues.status with hstatus | hstatus
      · rw [hstatus]
        decide
      · rw [hstatus]
        decide
    | consume use =>
      rw [(consume_cases hok).1]
      decide
    | terminate action =>
      rw [(terminate_cases hok).1]
      decide
  · exact herror

theorem ChannelLawful.same_statements {s : Sys host} (h : ChannelLawful first bindings s)
    (hcollision : NoCollision host (s.bindings.flatMap fun b => [b.inviter, b.invitee]))
    {b : Bindings host} (hb : b ∈ s.bindings) :
    b.inviter.1.certificate.statement = bindings.inviter.1.certificate.statement ∧
      b.invitee.1.certificate.statement = bindings.invitee.1.certificate.statement := by
  have hinviter : ∀ c ∈ s.bindings,
      c.inviter ∈ s.bindings.flatMap fun b => [b.inviter, b.invitee] := fun c hc =>
    List.mem_flatMap.mpr ⟨c, hc, List.mem_cons_self⟩
  have hinvitee : ∀ c ∈ s.bindings,
      c.invitee ∈ s.bindings.flatMap fun b => [b.inviter, b.invitee] := fun c hc =>
    List.mem_flatMap.mpr ⟨c, hc, List.mem_cons_of_mem _ (List.mem_singleton_self _)⟩
  obtain ⟨hb₁, hb₂⟩ := h.bindings b hb
  obtain ⟨ho₁, ho₂⟩ := h.bindings bindings h.opening
  exact ⟨certificateDigest_inj hcollision (hinviter b hb) (hinviter bindings h.opening)
      (hb₁.trans ho₁.symm),
    certificateDigest_inj hcollision (hinvitee b hb) (hinvitee bindings h.opening)
      (hb₂.trans ho₂.symm)⟩

theorem channel_lawful
    (h : openRelationshipChannel host value acceptedAt bindings revocations = .ok first)
    (as : List (Action host)) :
    let s := run (step host) (opened first bindings) as
    (Chained host first.channelId 1 none s.epochs ∧ s.state.activeEpoch = s.epochs.length ∧
      s.state.activeEpochDigest = lastDigest host none s.epochs) ∧
    (s.state.nextSequence = s.state.messagesUsed ∧ s.state.messagesUsed = s.sizes.length ∧
      s.state.bytesUsed = s.sizes.sum) ∧
    (s.state.messagesUsed ≤ s.state.maxMessages ∧ s.state.bytesUsed ≤ s.state.maxTotalBytes) ∧
    (s.state.status ∉ [ChannelStatus.invited, .active] →
      ∀ a, ∃ e, perform host s.state a = .error e) ∧ s.state.identity = first.identity ∧
    (∀ b ∈ s.bindings, b.inviter.1.certificateDigest = first.inviterBindingDigest ∧
      b.invitee.1.certificateDigest = first.inviteeBindingDigest) ∧
    (NoCollision host (s.bindings.flatMap fun b => [b.inviter, b.invitee]) → ∀ b ∈ s.bindings,
        b.inviter.1.certificate.statement = bindings.inviter.1.certificate.statement ∧
        b.invitee.1.certificate.statement = bindings.invitee.1.certificate.statement) := by
  intro s
  have hlawful : ChannelLawful first bindings s :=
    run_invariant (I := ChannelLawful first bindings) (fun _ a hs => hs.step a) as (lawful_opened h)
  exact ⟨⟨hlawful.chained, hlawful.activeEpoch, hlawful.activeEpochDigest⟩,
    ⟨hlawful.sequence, hlawful.messages, hlawful.bytes⟩, ⟨hlawful.messageQuota, hlawful.byteQuota⟩,
    terminal_rejects, hlawful.identity, hlawful.bindings,
    fun hcollision b hb => hlawful.same_statements hcollision hb⟩

/-! ## A channel that runs -/

def zeros (length : Nat) : Text := List.replicate length '0'

/-- A host where every hash is zero, and every signature holds. -/
def plainHost : Host where
  sha256 := fun _ => Vector.replicate 32 0
  verify := fun _ _ _ => true
  validateAndParseAddress := some
  messageHash := fun _ => some "0x1".toList

def zeroDigest : Json := .string (sha256Prefix ++ zeros 64)

def certificateOf (account : String) : Json :=
  .object [("version", .number 1),
    ("statement", .object [("domain", .string walletMailBindingDomain), ("version", .number 1),
      ("account", .string account.toList), ("chainId", .string "0x1".toList),
      ("mailboxPublicKey", .string (zeros 64)), ("authPublicKey", .string (zeros 64)),
      ("issuedAt", .number 1), ("expiresAt", .number 100),
      ("nonce", .string ("0x".toList ++ zeros 64)),
      ("revocationId", .string ("0x".toList ++ zeros 64))]),
    ("statementDigest", zeroDigest), ("messageHash", .string "0x1".toList),
    ("signature", .array [.string "1".toList])]

def bindingOf (account : String) : VerifiedWalletMailBinding where
  certificate := ⟨⟨account.toList, "0x1".toList, zeros 64, zeros 64, 1, 100,
      "0x".toList ++ zeros 64, "0x".toList ++ zeros 64⟩, sha256Prefix ++ zeros 64, "0x1".toList,
    ["0x1".toList]⟩
  certificateDigest := sha256Prefix ++ zeros 64
  verifiedAt := 5
  revocationSnapshotDigest := sha256Prefix ++ zeros 64

def plainBindings : Bindings plainHost where
  inviter := ⟨bindingOf "0xa", some (certificateOf "0xa"), some (.number 5), some zeroDigest, [],
    true, by decide +kernel⟩
  invitee := ⟨bindingOf "0xb", some (certificateOf "0xb"), some (.number 5), some zeroDigest, [],
    true, by decide +kernel⟩

def plainInvitation : Json :=
  .object [("version", .number 1),
    ("invitation", .object [("domain", .string channelInvitationDomain), ("version", .number 1),
      ("invitationId", .string ("0x".toList ++ zeros 64)),
      ("channelId", .string ("0x".toList ++ zeros 64)), ("inviterBindingDigest", zeroDigest),
      ("inviteeBindingDigest", zeroDigest), ("inviterHandshakeKey", .string (zeros 64)),
      ("relayCapability", .string ("0x".toList ++ zeros 64)), ("issuedAt", .number 1),
      ("expiresAt", .number 50),
      ("quota", .object [("maxMessages", .number 2), ("maxTotalBytes", .number 100)])]),
    ("invitationDigest", zeroDigest), ("authPublicKey", .string (zeros 64)),
    ("signature", .string (zeros 128))]

def plainEpoch : Json :=
  .object [("version", .number 1),
    ("epoch", .object [("domain", .string channelEpochDomain), ("version", .number 1),
      ("channelId", .string ("0x".toList ++ zeros 64)), ("epoch", .number 1),
      ("previousEpochDigest", .null), ("initiatorKey", .string (zeros 64)),
      ("responderKey", .string (zeros 64)), ("rootKeyCommitment", zeroDigest),
      ("suite", .string channelSuite), ("createdAt", .number 7), ("expiresAt", .number 40)]),
    ("epochDigest", zeroDigest), ("initiatorAuthPublicKey", .string (zeros 64)),
    ("initiatorSignature", .string (zeros 128)),
    ("responderAuthPublicKey", .string (zeros 64)),
    ("responderSignature", .string (zeros 128))]

def plainChannel : RelationshipChannelStateV1 where
  channelId := "0x".toList ++ zeros 64
  invitationDigest := sha256Prefix ++ zeros 64
  inviterBindingDigest := sha256Prefix ++ zeros 64
  inviteeBindingDigest := sha256Prefix ++ zeros 64
  revocationSnapshotDigest := sha256Prefix ++ zeros 64
  status := .invited
  activeEpoch := 0
  activeEpochDigest := none
  nextSequence := 0
  messagesUsed := 0
  bytesUsed := 0
  maxMessages := 2
  maxTotalBytes := 100
  expiresAt := 50
  reportDigest := none

/-- An epoch, a message of 60 bytes, one that would exceed the quota, and a revocation. -/
def plainActions : List (Action plainHost) :=
  [.activate plainEpoch plainBindings ⟨[], zeroDigest⟩,
    .consume ⟨.number 0, .number 60, .number 9⟩, .consume ⟨.number 1, .number 60, .number 10⟩,
    .terminate .revoke]

theorem channel_lawful_revoked :
    let s := run (step plainHost) (opened plainChannel plainBindings) plainActions
    (s.state.status = .revoked ∧ s.state.messagesUsed = 1 ∧ s.state.activeEpoch = 1) ∧
      s.state.bytesUsed = s.sizes.sum ∧ ∀ a, ∃ e, perform plainHost s.state a = .error e := by
  have hopen : openRelationshipChannel plainHost plainInvitation (.number 6) plainBindings
      ⟨[], zeroDigest⟩ = .ok plainChannel := by decide +kernel
  obtain ⟨-, ⟨-, -, hbytes⟩, -, hterminal, -⟩ := channel_lawful hopen plainActions
  have hstatus : (run (step plainHost) (opened plainChannel plainBindings)
      plainActions).state.status = .revoked := by decide +kernel
  refine ⟨⟨hstatus, by decide +kernel, by decide +kernel⟩, hbytes, hterminal ?_⟩
  rw [hstatus]
  decide

end App20.Channel
