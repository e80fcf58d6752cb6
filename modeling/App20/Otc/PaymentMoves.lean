import App20.Otc.Storage

/-!
# What an operation does to a payment

Every operation leaves the record of a request as it is, or changes it in one of a few ways, and
each of these ways means one thing to the attempts to pay it.

* `perform_payment`: the ways of all operations.
-/

namespace App20.Otc

open App20.Lib App20.Domain

variable {build : Build} {chainId : Text}

/-! ## Moves -/

/-- The record of a request before and after an operation, and what it means to the attempts. -/
inductive PaymentMove (build : Build) (chainId requestId : Text) :
    Option PaymentRecord → Option PaymentRecord → Option Event → Prop
  | same {r : Option PaymentRecord} : PaymentMove build chainId requestId r r none
  | recorded {value : Json} {parsed : PaymentRequestPayload} {origin : Option PaymentOrigin}
      {linkAuthenticity : Option PaymentLinkAuthenticity} {now : Int} :
    parsePaymentRequestPayload value = some parsed → parsed.requestId = requestId →
    paymentLinkChainIdsEqual build (parsed.chainId.getD chainId) chainId = true →
    PaymentMove build chainId requestId none
      (some (newPaymentRecord parsed origin linkAuthenticity now)) none
  | imported {current : PaymentRecord} {value : Json} {parsed : PaymentRequestPayload}
      {origin : Option PaymentOrigin} {linkAuthenticity : Option PaymentLinkAuthenticity} :
    parsePaymentRequestPayload value = some parsed →
    paymentRequestsEqual build current.request parsed chainId = true →
    PaymentMove build chainId requestId (some current)
      (some (current.importLink parsed origin linkAuthenticity)) none
  | expired {current : PaymentRecord} {now : Int} : current.status = .requested →
    PaymentMove build chainId requestId (some current) (some (current.expire now)) none
  | awaited {current : PaymentRecord} {take : InvoiceTakeSettlement} {now : Int} :
    current.status = .requested →
    PaymentMove build chainId requestId (some current) (some (current.awaitMaturity take now)) none
  | reserved {current : PaymentRecord} {attemptId : Text} {now : Int} :
    current.status = .requested →
    PaymentMove build chainId requestId (some current) (some (current.reserve attemptId now))
      (some (.reserved attemptId))
  | noted {current : PaymentRecord} {accept : AcceptPayload} {now : Int} :
    PaymentMove build chainId requestId (some current) (some (current.note accept now)) none
  | submitted {current : PaymentRecord} {hash : Text} {now : Int} : current.status = .paid →
    current.state = some .reserved → isFelt hash = true →
    PaymentMove build chainId requestId (some current) (some (current.submit hash now))
      (some (.submitted hash))
  | confirmed {current : PaymentRecord} {submitted hash : Text} {receipt : ReceiptPayload}
      {now : Int} : current.status = .paid → current.submittedHash = some submitted →
    feltEquals submitted hash = true →
    PaymentMove build chainId requestId (some current) (some (current.confirm hash receipt now)) none
  | unknown {current : PaymentRecord} {hash : Option Text} {now : Int} : current.status = .paid →
    current.state = some .reserved ∨ current.state = some .submitted →
    PaymentMove build chainId requestId (some current) (some (current.settle hash .unknown now)) none
  | reverted {current : PaymentRecord} {submitted hash : Text} {now : Int} :
    current.status = .paid → current.submittedHash = some submitted →
    feltEquals submitted hash = true →
    PaymentMove build chainId requestId (some current)
      (some (current.settle (some hash) .reverted now)) (some (.ended (.reverted hash)))
  | released {current : PaymentRecord} {now : Int} : current.status = .paid →
    current.state = some .reserved →
    PaymentMove build chainId requestId (some current) (some (current.release now))
      (some (.ended .released))

/-- Every record is moved, and an event is one of the request it names. -/
def PaymentMoves (build : Build) (chainId : Text) (payments payments' : Payments)
    (event : Option (Task × Event)) : Prop :=
  ∀ id, PaymentMove build chainId id (payments id) (payments' id) (eventOn event (.payment id))

theorem PaymentMoves.put {payments : Payments} {id : Text} {r : PaymentRecord}
    {event : Option Event} (h : PaymentMove build chainId id (payments id) (some r) event) :
    PaymentMoves build chainId payments (payments.put id r)
      (event.map fun e => (.payment id, e)) := by
  intro id'
  have hother : ∀ task, task ≠ Task.payment id →
      eventOn (event.map fun e => (.payment id, e)) task = none := by
    intro task htask
    cases event with
    | none => rfl
    | some e => exact if_neg htask.symm
  by_cases hid : id' = id
  · subst hid
    have hevent : eventOn (event.map fun e => (.payment id', e)) (.payment id') = event := by
      cases event with
      | none => rfl
      | some e => exact if_pos rfl
    rw [hevent, Payments.put, Function.update_self]
    exact h
  · rw [hother _ fun heq => hid (Task.payment.inj heq), Payments.put, Function.update_of_ne hid]
    exact .same

theorem PaymentMoves.none_of_same {payments : Payments} {event : Option (Task × Event)}
    (h : ∀ id, eventOn event (.payment id) = none) :
    PaymentMoves build chainId payments payments event := by
  intro id
  rw [h id]
  exact .same

/-- The records stand under their own ids. -/
def Payments.Keyed (payments : Payments) : Prop := ∀ id r, payments id = some r → r.requestId = id

/-! ## The operations -/

variable {payments payments' : Payments}

variable {now : Int} {requestId : Text}

theorem recordPaymentRequestWithOrigin_moves {request : Json} {origin : Option PaymentOrigin}
    {linkAuthenticity : Option PaymentLinkAuthenticity}
    (h : recordPaymentRequestWithOrigin build chainId payments request now origin linkAuthenticity =
      .ok payments') : PaymentMoves build chainId payments payments' none := by
  unfold recordPaymentRequestWithOrigin at h
  split at h
  · cases h
  · rename_i parsed hparsed
    simp only [bind_ok, throwIf_ok, exists_unit] at h
    obtain ⟨hchain, h⟩ := h
    split at h
    · rename_i existing hexisting
      simp only [bind_ok, throwIf_ok, exists_unit] at h
      obtain ⟨hequal, h⟩ := h
      split at h
      · cases h
        have hmove : PaymentMove build chainId parsed.requestId (payments parsed.requestId)
            (some (existing.importLink parsed origin linkAuthenticity)) none := by
          rw [hexisting]
          exact .imported hparsed (Bool.not_eq_false _ ▸ hequal)
        exact .put hmove
      · cases h
        exact .none_of_same fun _ => rfl
    · rename_i hnone
      cases h
      have hmove : PaymentMove build chainId parsed.requestId (payments parsed.requestId)
          (some (newPaymentRecord parsed origin linkAuthenticity now)) none := by
        rw [hnone]
        exact .recorded hparsed rfl (Bool.not_eq_false _ ▸ hchain)
      exact .put hmove

theorem expirePayment_moves (now : Int) :
    PaymentMoves build chainId payments (fun id => (payments id).map fun r => expirePayment r now)
      none := by
  intro id
  dsimp only
  cases payments id with
  | none => exact .same
  | some r =>
    rw [Option.map_some]
    unfold expirePayment
    split
    · rename_i hcond
      exact .expired hcond.1
    · exact .same

theorem recordInvoiceTakeSettled_moves {input : InvoiceTakeSettlement}
    (h : recordInvoiceTakeSettled build chainId payments requestId input now = .ok payments') :
    PaymentMoves build chainId payments payments' none := by
  unfold recordInvoiceTakeSettled at h
  split at h
  · cases h
  · rename_i current hcurrent
    simp only [bind_ok, throwIf_ok, exists_unit] at h
    obtain ⟨token, -, -, hinput, h⟩ := h
    split at h
    · simp only [bind_ok, throwIf_ok, exists_unit] at h
      obtain ⟨-, h⟩ := h
      cases h
      exact .none_of_same fun _ => rfl
    · simp only [bind_ok, throwIf_ok, exists_unit] at h
      obtain ⟨-, h⟩ := h
      cases h
      have hmove : PaymentMove build chainId requestId (payments requestId)
          (some (current.awaitMaturity { input with buyToken := token.address } now)) none := by
        rw [hcurrent]
        exact .awaited (not_not.mp fun hstatus => hinput (.inl hstatus))
      exact .put hmove

theorem claimPaymentInternal_moves {state : OtcState} {expectedRequest : Json} {attemptId : Text}
    {maturityHeadBlock : Option Int} {claim : PaymentClaim}
    (h : claimPaymentInternal build chainId state.payments expectedRequest attemptId now
      maturityHeadBlock = .ok claim) :
    PaymentMoves build chainId state.payments (claim.effect state attemptId).state.payments
      (claim.effect state attemptId).event := by
  unfold claimPaymentInternal at h
  split at h
  · cases h
  · rename_i parsed hparsed
    split at h
    · cases h
    · rename_i current hcurrent
      simp only [bind_ok, throwIf_ok, exists_unit] at h
      obtain ⟨-, hstatus, token, -, h⟩ := h
      have hrequested : current.status = .requested := not_not.mp fun hne => hstatus (.inl hne)
      have hfinal : (if paymentRequestIsExpired current.request now then
          Except.ok (PaymentClaim.expired (state.payments.put parsed.requestId (current.expire now)))
          else Except.ok (PaymentClaim.claimed parsed.requestId
            (state.payments.put parsed.requestId (current.reserve attemptId now)))) =
          (Except.ok claim : Except String PaymentClaim) := by
        split at h
        · simp only [bind_ok] at h
          obtain ⟨-, -, h⟩ := h
          exact h
        · exact h
      split at hfinal
      · cases hfinal
        have hmove : PaymentMove build chainId parsed.requestId (state.payments parsed.requestId)
            (some (current.expire now)) none := by
          rw [hcurrent]
          exact .expired hrequested
        exact .put hmove
      · cases hfinal
        have hmove : PaymentMove build chainId parsed.requestId (state.payments parsed.requestId)
            (some (current.reserve attemptId now)) (some (.reserved attemptId)) := by
          rw [hcurrent]
          exact .reserved hrequested
        exact .put hmove

theorem recordUnverifiedPaymentClaim_moves {acceptPayload : Json} (hkeyed : payments.Keyed)
    (h : recordUnverifiedPaymentClaim build chainId payments acceptPayload now = .ok payments') :
    PaymentMoves build chainId payments payments' none := by
  unfold recordUnverifiedPaymentClaim at h
  split at h
  · cases h
  · rename_i accept haccept
    split at h
    · cases h
    · rename_i current hcurrent
      simp only [bind_ok, throwIf_ok, exists_unit] at h
      obtain ⟨-, token, -, -, h⟩ := h
      cases h
      have hmove : PaymentMove build chainId current.requestId (payments current.requestId)
          (some (current.note accept now)) none := by
        rw [hkeyed _ _ hcurrent, hcurrent]
        exact .noted
      exact .put hmove

theorem markPaymentSubmitted_moves {transactionHash : Text}
    (h : markPaymentSubmitted payments requestId transactionHash now = .ok payments') :
    PaymentMoves build chainId payments payments'
      (some (.payment requestId, .submitted transactionHash)) := by
  unfold markPaymentSubmitted at h
  split at h
  · cases h
  · rename_i current hcurrent
    simp only [bind_ok, throwIf_ok, exists_unit, not_or, not_not, Bool.not_eq_false] at h
    obtain ⟨⟨hstatus, hstate, hfelt⟩, h⟩ := h
    cases h
    have hmove : PaymentMove build chainId requestId (payments requestId)
        (some (current.submit transactionHash now)) (some (.submitted transactionHash)) := by
      rw [hcurrent]
      exact .submitted hstatus hstate hfelt
    exact .put hmove

theorem confirmPayment_moves {transactionHash : Text} {receipt : ReceiptPayload}
    (h : confirmPayment payments requestId transactionHash receipt now = .ok payments') :
    PaymentMoves build chainId payments payments' none := by
  unfold confirmPayment at h
  split at h
  · cases h
  · rename_i current hcurrent
    simp only [bind_ok, throwIf_ok, exists_unit, not_or, not_not] at h
    obtain ⟨⟨hstatus, hsubmitted⟩, ⟨-, -, -, hequal, -, -⟩, h⟩ := h
    obtain ⟨submitted, hsubmitted⟩ := Option.ne_none_iff_exists'.mp hsubmitted
    cases h
    have hmove : PaymentMove build chainId requestId (payments requestId)
        (some (current.confirm transactionHash receipt now)) none := by
      rw [hcurrent]
      refine .confirmed hstatus hsubmitted ?_
      by_contra hne
      exact hequal ⟨submitted, hsubmitted, Bool.eq_false_iff.mpr hne⟩
    exact .put hmove

theorem submittedHash_state {r : PaymentRecord} {submitted : Text}
    (h : r.submittedHash = some submitted) : r.state = some .submitted ∧
      ∃ operation, r.paymentOperation = some operation ∧
        operation.transactionHash = some submitted := by
  unfold PaymentRecord.submittedHash at h
  split at h
  · rename_i operation hoperation
    split at h
    · rename_i hcond
      refine ⟨?_, operation, hoperation, h⟩
      rw [PaymentRecord.state, hoperation, Option.map_some, hcond.1]
    · cases h
  · cases h

theorem matchesSubmitted_cases {submittedHash transactionHash : Option Text}
    (h : matchesSubmitted submittedHash transactionHash = true) :
    ∃ submitted hash, submittedHash = some submitted ∧ transactionHash = some hash ∧
      feltEquals submitted hash = true := by
  unfold matchesSubmitted at h
  split at h
  · rename_i submitted hash
    rw [Bool.and_eq_true] at h
    exact ⟨submitted, hash, rfl, rfl, h.2⟩
  · cases h

theorem markPaymentOutcome_moves {transactionHash : Option Text} {outcome : Outcome}
    (h : markPaymentOutcome payments requestId transactionHash outcome now = .ok payments') :
    PaymentMoves build chainId payments payments'
      (outcomeEvent (.payment requestId) transactionHash outcome) := by
  unfold markPaymentOutcome at h
  split at h
  · cases h
  · rename_i current hcurrent
    simp only [bind_ok, throwIf_ok, exists_unit, not_or, not_and, not_not, Bool.not_eq_false] at h
    obtain ⟨⟨hstatus, hmatches⟩, h⟩ := h
    cases h
    cases outcome with
    | unknown =>
      have hmove : PaymentMove build chainId requestId (payments requestId)
          (some (current.settle transactionHash .unknown now)) none := by
        rw [hcurrent]
        refine .unknown hstatus ?_
        cases hwithout : unknownWithoutHash current transactionHash .unknown with
        | true =>
          simp only [unknownWithoutHash, Bool.and_eq_true, decide_eq_true_eq] at hwithout
          exact .inl hwithout.1.1.1.2
        | false =>
          obtain ⟨submitted, hash, hsubmitted, -, -⟩ := matchesSubmitted_cases (hmatches hwithout)
          exact .inr (submittedHash_state hsubmitted).1
      exact .put hmove
    | reverted =>
      obtain ⟨submitted, hash, hsubmitted, rfl, hequal⟩ := matchesSubmitted_cases (hmatches rfl)
      have hmove : PaymentMove build chainId requestId (payments requestId)
          (some (current.settle (some hash) .reverted now)) (some (.ended (.reverted hash))) := by
        rw [hcurrent]
        exact .reverted hstatus hsubmitted hequal
      exact .put hmove

theorem releasePayment_moves :
    PaymentMoves build chainId payments (releasePayment payments requestId now)
      (if (payments requestId).any releasable then some (.payment requestId, .ended .released)
        else none) := by
  unfold releasePayment
  split
  · rename_i current hcurrent
    rw [hcurrent, Option.any_some]
    split
    · rename_i hreleasable
      simp only [releasable, Bool.and_eq_true, decide_eq_true_eq] at hreleasable
      have hmove : PaymentMove build chainId requestId (payments requestId)
          (some (current.release now)) (some (.ended .released)) := by
        rw [hcurrent]
        exact .released hreleasable.1.1.1 hreleasable.1.1.2
      exact .put hmove
    · exact .none_of_same fun _ => rfl
  · rename_i hnone
    rw [hnone]
    exact .none_of_same fun _ => rfl

theorem eventOn_deal {dealId id : Text} {e : Event} :
    eventOn (some (Task.deal dealId, e)) (.payment id) = none := by
  unfold eventOn
  exact if_neg Task.noConfusion

theorem perform_payment {a : Action} {state : OtcState} {e : Effect}
    (hkeyed : state.payments.Keyed) (h : perform build a state = .ok e) :
    PaymentMoves build a.chainId state.payments e.state.payments e.event := by
  unfold perform at h
  dsimp only at h
  split at h
  · cases h
    exact expirePayment_moves a.now
  · obtain ⟨payments', hok, rfl⟩ := map_ok.mp h
    exact recordPaymentRequestWithOrigin_moves hok
  · obtain ⟨payments', hok, rfl⟩ := map_ok.mp h
    exact recordPaymentRequestWithOrigin_moves hok
  · obtain ⟨payments', hok, rfl⟩ := map_ok.mp h
    exact recordInvoiceTakeSettled_moves hok
  · obtain ⟨claim, hok, rfl⟩ := map_ok.mp h
    exact claimPaymentInternal_moves hok
  · obtain ⟨claim, hok, rfl⟩ := map_ok.mp h
    exact claimPaymentInternal_moves hok
  · obtain ⟨payments', hok, rfl⟩ := map_ok.mp h
    exact recordUnverifiedPaymentClaim_moves hkeyed hok
  · obtain ⟨payments', hok, rfl⟩ := map_ok.mp h
    exact markPaymentSubmitted_moves hok
  · obtain ⟨payments', hok, rfl⟩ := map_ok.mp h
    exact confirmPayment_moves hok
  · obtain ⟨payments', hok, rfl⟩ := map_ok.mp h
    exact markPaymentOutcome_moves hok
  · cases h
    exact releasePayment_moves
  · obtain ⟨deals', -, rfl⟩ := map_ok.mp h
    exact .none_of_same fun _ => rfl
  · obtain ⟨claim, -, rfl⟩ := map_ok.mp h
    cases claim with
    | expired deals => exact .none_of_same fun _ => rfl
    | claimed dealId deals => exact .none_of_same fun _ => eventOn_deal
  · obtain ⟨deals', -, rfl⟩ := map_ok.mp h
    exact .none_of_same fun _ => eventOn_deal
  · obtain ⟨deals', -, rfl⟩ := map_ok.mp h
    exact .none_of_same fun _ => rfl
  · obtain ⟨deals', -, rfl⟩ := map_ok.mp h
    refine .none_of_same fun _ => ?_
    unfold outcomeEvent
    split
    · exact eventOn_deal
    · rfl
  · cases h
    refine .none_of_same fun _ => ?_
    split
    · exact eventOn_deal
    · rfl

end App20.Otc
