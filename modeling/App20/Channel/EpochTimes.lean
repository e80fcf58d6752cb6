import App20.Channel.ChannelRuns

/-!
# Times of epochs and messages

An epoch is signed with the times it is created and expires at. Activation checks that it does not
outlive the channel; the state keeps its number and digest only, so a message is held to the expiry
of the channel.

* `activate_times`: the times of an epoch that is activated.
* `messages_within_channel`: a message that is counted is of the active epoch and no later than the
  expiry of the channel; a later one expires the channel, and nothing is accepted after it.
-/

namespace App20.Channel

open App20.Lib App20.Domain

variable {host : Host}

/-! ## Epochs -/

theorem normalizeEpoch_times {value : Option Json} {e : RelationshipChannelEpochV1}
    (h : normalizeRelationshipChannelEpoch value = .ok e) : e.createdAt < e.expiresAt := by
  simp only [normalizeRelationshipChannelEpoch, bind_ok, pure_ok, throwIf_ok, not_le] at h
  obtain ⟨_, -, _, -, _, -, createdAt, -, expiresAt, -, _, hlt, _, -, _, -, _, -, _, -, _, -, _, -,
    rfl⟩ := h
  exact hlt

theorem verifyEpoch_times {value : Json} {bindings : Bindings host}
    {signed : SignedRelationshipChannelEpochV1}
    (h : verifyRelationshipChannelEpoch host value bindings = some signed) :
    signed.epoch.createdAt < signed.epoch.expiresAt := by
  simp only [verifyRelationshipChannelEpoch, Option.bind_eq_bind, Option.bind_eq_some_iff,
    Option.guard_eq_some', Option.pure_def, Option.some.injEq] at h
  obtain ⟨record, -, -, -, -, -, _, -, _, -, _, -, _, -, epoch, hepoch, _, -, -, -, rfl⟩ := h
  cases hnormal : normalizeRelationshipChannelEpoch (record.get? "epoch") with
  | error e =>
    rw [hnormal] at hepoch
    cases hepoch
  | ok e =>
    rw [hnormal] at hepoch
    cases hepoch
    exact normalizeEpoch_times hnormal

theorem activate_times {state state' : RelationshipChannelStateV1} {value : Json}
    {bindings : Bindings host} {revocations : Revocations}
    {signed : SignedRelationshipChannelEpochV1}
    (h : activateRelationshipChannelEpoch host state value bindings revocations = .ok state')
    (hsigned : verifyRelationshipChannelEpoch host value bindings = some signed) :
    signed.epoch.createdAt < signed.epoch.expiresAt ∧ signed.epoch.expiresAt ≤ state.expiresAt := by
  refine ⟨verifyEpoch_times hsigned, ?_⟩
  simp only [activateRelationshipChannelEpoch, bind_ok, throwIf_ok, exists_unit] at h
  obtain ⟨-, -, h⟩ := h
  rw [hsigned] at h
  simp only [bind_ok, throwIf_ok, exists_unit, not_or, not_lt] at h
  obtain ⟨_, -, -, -, ⟨-, -, -, hexpires⟩, -⟩ := h
  exact hexpires

/-- Every epoch of the channel lasts some time, and no longer than the channel. -/
def EpochsWithin (s : Sys host) : Prop :=
  ∀ e ∈ s.epochs, e.createdAt < e.expiresAt ∧ e.expiresAt ≤ s.state.expiresAt

theorem EpochsWithin.step {s : Sys host} (h : EpochsWithin s) (a : Action host) :
    EpochsWithin (step host s a) := by
  unfold Channel.step
  split
  · exact h
  · rename_i state' hperform
    cases a with
    | activate value bindings revocations =>
      obtain ⟨signed, snapshot, hsigned, -, rfl⟩ := activate_ok hperform
      intro e he
      dsimp only at he
      rw [hsigned] at he
      rcases List.mem_append.mp he with he | he
      · exact h e he
      · have htimes := @activate_times host s.state _ value bindings revocations signed hperform hsigned
        rw [List.mem_singleton.mp he]
        exact htimes
    | consume use =>
      obtain ⟨-, rfl | ⟨bytes, -, -, -, -, -, rfl⟩⟩ := consume_cases hperform
      · exact h
      · exact h
    | terminate action =>
      obtain ⟨-, status, report, -, rfl⟩ := terminate_cases hperform
      exact h

theorem Chained.last {channelId : Text} {number : Int} {previous : Option Text}
    {es : List RelationshipChannelEpochV1} {e : RelationshipChannelEpochV1}
    (h : Chained host channelId number previous es) (hlast : es.getLast? = some e) :
    e.epoch + 1 = number + es.length := by
  induction es generalizing number previous with
  | nil => cases hlast
  | cons d es ih =>
    obtain ⟨-, hnumber, -, hrest⟩ := h
    rw [List.length_cons]
    push_cast
    cases es with
    | nil =>
      rw [List.getLast?_singleton, Option.some.injEq] at hlast
      rw [← hlast, hnumber]
      rfl
    | cons d' es =>
      rw [List.getLast?_cons_cons] at hlast
      rw [ih hrest hlast]
      omega

/-! ## Messages -/

/-- A message has a time; whether it is counted depends on the expiry of the channel alone. -/
theorem consume_times {state state' : RelationshipChannelStateV1} {use : ChannelMessageUse}
    (h : consumeRelationshipChannelQuota state use = .ok state') :
    state.activeEpoch ≠ 0 ∧ ∃ t, use.sentAt = .number t ∧
      (state'.status = .active ↔ t ≤ state.expiresAt) ∧
      (state'.status ≠ .active → state' = { state with status := .expired }) := by
  simp only [consumeRelationshipChannelQuota, bind_ok, throwIf_ok, exists_unit,
    not_or, not_not] at h
  obtain ⟨⟨hactive, hepoch⟩, sentAt, hsent, bytes, -, h⟩ := h
  have htime : use.sentAt = .number sentAt := by
    unfold timestamp at hsent
    split at hsent
    · rename_i n hn
      split at hsent
      · cases hsent
        exact Option.some.inj hn
      · cases hsent
    · cases hsent
  refine ⟨hepoch, sentAt, htime, ?_⟩
  split at h
  · rename_i hlate
    cases h
    exact ⟨⟨fun hstatus => (by cases hstatus), fun hle => absurd hlate (not_lt.mpr hle)⟩,
      fun _ => rfl⟩
  · rename_i hearly
    simp only [bind_ok, throwIf_ok, exists_unit] at h
    obtain ⟨-, -, h⟩ := h
    cases h
    exact ⟨⟨fun _ => not_lt.mp hearly, fun _ => hactive⟩, fun hstatus => absurd hactive hstatus⟩

theorem run_ended {s : Sys host} (h : s.state.status ∉ [ChannelStatus.invited, .active])
    (as : List (Action host)) : run (step host) s as = s := by
  induction as with
  | nil => rfl
  | cons a as ih =>
    obtain ⟨e, he⟩ := terminal_rejects h a
    have hstep : step host s a = s := by
      unfold step
      rw [he]
    rw [run_cons, hstep]
    exact ih

theorem messages_within_channel {first : RelationshipChannelStateV1} {value acceptedAt : Json}
    {bindings : Bindings host} {revocations : Revocations}
    (h : openRelationshipChannel host value acceptedAt bindings revocations = .ok first)
    (as : List (Action host)) (use : ChannelMessageUse) (state' : RelationshipChannelStateV1) :
    let s := run (step host) (opened first bindings) as
    consumeRelationshipChannelQuota s.state use = .ok state' →
    (state'.status = .active → ∃ t e, use.sentAt = .number t ∧ s.epochs.getLast? = some e ∧
      s.state.activeEpoch = e.epoch ∧
      s.state.activeEpochDigest = some (relationshipChannelEpochDigest host e) ∧
      t ≤ first.expiresAt ∧ e.createdAt < e.expiresAt ∧ e.expiresAt ≤ first.expiresAt) ∧
    (state'.status ≠ .active → (∃ t, use.sentAt = .number t ∧ first.expiresAt < t) ∧
      ∀ bs, run (step host) (step host s (.consume use)) bs = step host s (.consume use)) := by
  intro s hconsume
  have hlawful : ChannelLawful first bindings s :=
    run_invariant (I := ChannelLawful first bindings) (fun _ a hs => hs.step a) as (lawful_opened h)
  have hwithin : EpochsWithin s :=
    run_invariant (I := EpochsWithin) (fun _ a hs => hs.step a) as fun e he => (by cases he)
  have hexpiry : s.state.expiresAt = first.expiresAt :=
    congrArg ChannelIdentity.expiresAt hlawful.identity
  obtain ⟨hepoch, t, ht, hiff, hexpired⟩ := consume_times hconsume
  constructor
  · intro hactive
    cases hlast : s.epochs.getLast? with
    | none =>
      rw [List.getLast?_eq_none_iff] at hlast
      rw [hlawful.activeEpoch, hlast] at hepoch
      exact absurd rfl hepoch
    | some e =>
      have hmem : e ∈ s.epochs := List.mem_of_getLast? hlast
      obtain ⟨hlife, hbound⟩ := hwithin e hmem
      refine ⟨t, e, ht, rfl, ?_, ?_, hexpiry ▸ hiff.mp hactive, hlife, hexpiry ▸ hbound⟩
      · have hnumber := hlawful.chained.last hlast
        rw [hlawful.activeEpoch]
        omega
      · rw [hlawful.activeEpochDigest, lastDigest, hlast]
  · intro hended
    have hstate := hexpired hended
    refine ⟨⟨t, ht, ?_⟩, fun bs => ?_⟩
    · rw [← hexpiry]
      exact not_le.mp fun hle => hended (hiff.mpr hle)
    · apply run_ended
      have hperform : perform host s.state (.consume use) = .ok state' := hconsume
      unfold step
      rw [hperform, hstate]
      dsimp only
      decide

/-! ## A message outside its epoch -/

/-- The channel with its epoch, which lasts from 7 to 40. -/
def plainActive : Sys plainHost :=
  run (step plainHost) (opened plainChannel plainBindings)
    [.activate plainEpoch plainBindings ⟨[], zeroDigest⟩]

theorem messages_within_channel_plain :
    ∃ state', consumeRelationshipChannelQuota plainActive.state
        ⟨.number 0, .number 60, .number 9⟩ = .ok state' ∧
      ∃ t e, Json.number 9 = .number t ∧ plainActive.epochs.getLast? = some e ∧
        plainActive.state.activeEpoch = e.epoch ∧
        plainActive.state.activeEpochDigest = some (relationshipChannelEpochDigest plainHost e) ∧
        t ≤ 50 ∧ e.createdAt < e.expiresAt ∧ e.expiresAt ≤ 50 := by
  have hopen : openRelationshipChannel plainHost plainInvitation (.number 6) plainBindings
      ⟨[], zeroDigest⟩ = .ok plainChannel := by decide +kernel
  have hconsume : consumeRelationshipChannelQuota plainActive.state
      ⟨.number 0, .number 60, .number 9⟩ = .ok (plainActive.state.accept 60) := by decide +kernel
  have hactive : (plainActive.state.accept 60).status = .active := by decide +kernel
  exact ⟨_, hconsume, (messages_within_channel hopen _ _ _ hconsume).1 hactive⟩

/-- A message from after the expiry of the epoch, and one from before its creation, are counted. -/
theorem message_outside_epoch :
    openRelationshipChannel plainHost plainInvitation (.number 6) plainBindings
      ⟨[], zeroDigest⟩ = .ok plainChannel ∧
    plainActive.epochs.map (fun e => (e.createdAt, e.expiresAt)) = [(7, 40)] ∧
    consumeRelationshipChannelQuota plainActive.state ⟨.number 0, .number 60, .number 45⟩ =
      .ok (plainActive.state.accept 60) ∧
    consumeRelationshipChannelQuota plainActive.state ⟨.number 0, .number 60, .number 3⟩ =
      .ok (plainActive.state.accept 60) ∧ (plainActive.state.accept 60).status = .active := by
  decide +kernel

end App20.Channel
