import App20.Otc.PaymentMoves

/-!
# What an operation does to a deal

Every operation leaves the record of an offer as it is, or changes it in one of a few ways, and each
of these ways means one thing to the attempts to accept it.

* `perform_deal`: the ways of all operations.
-/

namespace App20.Otc

open App20.Lib App20.Domain

/-! ## Moves -/

/-- The transfer of an acceptance that was parsed, or of a receipt, is the offered one. -/
structure Matches (offer : OfferPayload) (transfer : Transfer) : Prop where
  token : IsNormal transfer.token.address
  recipient : canonicalizeStarknetFelt transfer.recipient = some transfer.recipient
  equal : transfersEqual transfer offer.transfer = true

/-- The record of an offer before and after an operation, and what it means to the attempts. What the
other party says is noted only by its messages. -/
inductive DealMove (byOther : Bool) :
    Option DealRecord → Option DealRecord → Option Event → Prop
  | same {r : Option DealRecord} : DealMove byOther r r none
  | offered {value : Json} {offer : OfferPayload} {now : Int} :
    parseOfferPayload value = some offer →
    DealMove byOther none (some (newDealRecord offer now)) none
  | expired {current : DealRecord} {now : Int} : current.status = .offered →
    DealMove byOther (some current) (some (current.expire now)) none
  | notedAccept {current : DealRecord} {accept : AcceptPayload} {now : Int} : byOther = true →
    DealMove byOther (some current) (some (current.noteAccept accept now)) none
  | notedReceipt {current : DealRecord} {receipt : ReceiptPayload} {now : Int} : byOther = true →
    DealMove byOther (some current) (some (current.noteReceipt receipt now)) none
  | taken {current : DealRecord} {accept : AcceptPayload} {now : Int} :
    current.status = .offered → Matches current.offer accept.transfer →
    DealMove byOther (some current) (some (current.takeUp accept now)) none
  | declined {current : DealRecord} {now : Int} : current.status = .offered →
    DealMove byOther (some current) (some (current.decline now)) none
  | closed {current : DealRecord} {value : Json} {receipt : ReceiptPayload} {now : Int} :
    parseReceiptPayload value = some receipt → matchesVerifiedAccept current receipt = true →
    current.status ≠ .closed →
    DealMove byOther (some current) (some (current.close receipt now)) none
  | reserved {current : DealRecord} {accept : AcceptPayload} {attemptId : Text} {now : Int} :
    current.status = .offered → Matches current.offer accept.transfer →
    DealMove byOther (some current) (some ((current.takeUp accept now).reserve attemptId now))
      (some (.reserved attemptId))
  | submitted {current : DealRecord} {hash : Text} {now : Int} : current.status = .accepted →
    current.state = some .reserved →
    DealMove byOther (some current) (some (current.submit hash now)) (some (.submitted hash))
  | confirmed {current : DealRecord} {submitted hash : Text} {now : Int} :
    current.status = .accepted → current.submittedHash = some submitted →
    feltEquals submitted hash = true →
    DealMove byOther (some current) (some (current.confirm hash now)) none
  | unknown {current : DealRecord} {submitted hash : Text} {now : Int} :
    current.status = .accepted → current.submittedHash = some submitted →
    DealMove byOther (some current) (some (current.settle hash .unknown now)) none
  | reverted {current : DealRecord} {submitted hash : Text} {now : Int} :
    current.status = .accepted → current.submittedHash = some submitted →
    feltEquals submitted hash = true →
    DealMove byOther (some current) (some (current.settle hash .reverted now))
      (some (.ended (.reverted hash)))
  | released {current : DealRecord} {now : Int} : current.status = .accepted →
    current.state = some .reserved →
    DealMove byOther (some current) (some (current.release now)) (some (.ended .released))

def DealMoves (byOther : Bool) (deals deals' : Deals) (event : Option (Task × Event)) : Prop :=
  ∀ id, DealMove byOther (deals id) (deals' id) (eventOn event (.deal id))

variable {byOther : Bool} {deals deals' : Deals}

theorem DealMoves.put {id : Text} {r : DealRecord} {event : Option Event}
    (h : DealMove byOther (deals id) (some r) event) :
    DealMoves byOther deals (deals.put id r) (event.map fun e => (.deal id, e)) := by
  intro id'
  have hother : ∀ task, task ≠ Task.deal id →
      eventOn (event.map fun e => (.deal id, e)) task = none := by
    intro task htask
    cases event with
    | none => rfl
    | some e => exact if_neg htask.symm
  by_cases hid : id' = id
  · subst hid
    have hevent : eventOn (event.map fun e => (.deal id', e)) (.deal id') = event := by
      cases event with
      | none => rfl
      | some e => exact if_pos rfl
    rw [hevent, Deals.put, Function.update_self]
    exact h
  · rw [hother _ fun heq => hid (Task.deal.inj heq), Deals.put, Function.update_of_ne hid]
    exact .same

theorem DealMoves.none_of_same {event : Option (Task × Event)}
    (h : ∀ id, eventOn event (.deal id) = none) : DealMoves byOther deals deals event := by
  intro id
  rw [h id]
  exact .same

/-! ## Events of deals -/

theorem matches_of_assert {offer : OfferPayload} {dealId : Text} {transfer : Transfer}
    (htoken : IsNormal transfer.token.address)
    (hrecipient : canonicalizeStarknetFelt transfer.recipient = some transfer.recipient)
    (h : assertAcceptMatchesOffer offer dealId transfer = .ok ()) : Matches offer transfer := by
  simp only [assertAcceptMatchesOffer, bind_ok, exists_unit, throwIf_ok, not_or,
    Bool.not_eq_false] at h
  exact ⟨htoken, hrecipient, h.2.2⟩

variable {current next : DealRecord} {payload : Json} {now : Int}

theorem transitionOffer_move {record : Option DealRecord}
    (h : transitionOffer record payload now = .ok next) :
    DealMove byOther record (some next) none := by
  unfold transitionOffer at h
  split at h
  · cases h
  · rename_i offer hoffer
    split at h
    · simp only [bind_ok] at h
      obtain ⟨-, -, h⟩ := h
      cases h
      exact .same
    · cases h
      exact .offered hoffer

theorem transitionAcceptClaim_move (h : transitionAcceptClaim current payload now = .ok next) :
    DealMove true (some current) (some next) none := by
  unfold transitionAcceptClaim at h
  split at h
  · cases h
  · simp only [bind_ok] at h
    obtain ⟨-, -, h⟩ := h
    cases h
    exact .notedAccept rfl

theorem transitionReceiptClaim_move (h : transitionReceiptClaim current payload now = .ok next) :
    DealMove true (some current) (some next) none := by
  unfold transitionReceiptClaim at h
  split at h
  · cases h
  · simp only [bind_ok] at h
    obtain ⟨-, -, -, -, h⟩ := h
    cases h
    exact .notedReceipt rfl

theorem transitionAccept_ok (h : transitionAccept current payload now = .ok next) :
    next = current ∨ current.status = .offered ∧
      ∃ accept, Matches current.offer accept.transfer ∧ next = current.takeUp accept now := by
  unfold transitionAccept at h
  split at h
  · cases h
    exact .inl rfl
  · simp only [bind_ok, throwIf_ok, exists_unit, not_not] at h
    obtain ⟨hstatus, h⟩ := h
    split at h
    · cases h
    · rename_i accept haccept
      simp only [bind_ok, exists_unit] at h
      obtain ⟨hmatch, h⟩ := h
      cases h
      obtain ⟨htoken, hrecipient⟩ := parseAcceptPayload_normal haccept
      exact .inr ⟨hstatus, accept, matches_of_assert htoken hrecipient hmatch, rfl⟩

theorem transitionDecline_move (h : transitionDecline current payload now = .ok next) :
    DealMove byOther (some current) (some next) none := by
  unfold transitionDecline at h
  split at h
  · cases h
    exact .same
  · simp only [bind_ok, throwIf_ok, exists_unit, not_not] at h
    obtain ⟨hstatus, -, h⟩ := h
    cases h
    exact .declined hstatus

theorem transitionReceipt_move (h : transitionReceipt current payload now = .ok next) :
    DealMove byOther (some current) (some next) none := by
  unfold transitionReceipt at h
  split at h
  · cases h
  · rename_i receipt hreceipt
    simp only [bind_ok, throwIf_ok, exists_unit, Bool.not_eq_false] at h
    obtain ⟨hmatch, h⟩ := h
    split at h
    · cases h
      exact .same
    · rename_i hstatus
      cases h
      exact .closed hreceipt hmatch hstatus

theorem lapsed_offered (h : lapsed current now = true) : current.status = .offered := by
  unfold lapsed at h
  rw [Bool.and_eq_true, decide_eq_true_eq] at h
  exact h.1

/-- The event is a message in which the other party says what it did. -/
def OtcDealEvent.fromOther : OtcDealEvent → Bool
  | .acceptClaim _ | .receiptClaim _ => true
  | _ => false

variable {event : OtcDealEvent}

theorem transitionByMessage_move (h : transitionByMessage current event now = .ok next) :
    DealMove event.fromOther (some current) (some next) none := by
  unfold transitionByMessage at h
  split at h
  · exact transitionAcceptClaim_move h
  · exact transitionReceiptClaim_move h
  · rcases transitionAccept_ok h with rfl | ⟨hstatus, accept, hmatch, rfl⟩
    · exact .same
    · exact .taken hstatus hmatch
  · exact transitionDecline_move h
  · exact transitionReceipt_move h
  · cases h
    exact .same
  · cases h
    exact .same

theorem transitionStored_move (h : transitionStored current event now = .ok next) :
    DealMove event.fromOther (some current) (some next) none := by
  unfold transitionStored at h
  split at h
  · cases h
    split
    · rename_i hlapsed
      exact .expired (lapsed_offered hlapsed)
    · exact .same
  · simp only [bind_ok, throwIf_ok, exists_unit] at h
    obtain ⟨-, h⟩ := h
    split at h
    · rename_i hlapsed
      cases h
      exact .expired (lapsed_offered hlapsed)
    · exact transitionByMessage_move h

theorem transitionDeal_move {record : Option DealRecord}
    (h : transitionDeal record event now = .ok next) :
    DealMove event.fromOther record (some next) none := by
  unfold transitionDeal at h
  split at h
  · exact transitionOffer_move h
  · split at h
    · cases h
    · exact transitionStored_move h

/-! ## The operations -/

theorem recordDealEvent_moves (h : recordDealEvent deals event now = .ok deals') :
    DealMoves event.fromOther deals deals' none := by
  simp only [recordDealEvent, bind_ok, throwIf_ok, exists_unit] at h
  obtain ⟨-, next, hnext, h⟩ := h
  cases h
  exact .put (transitionDeal_move hnext)

theorem expireDeal_moves (now : Int) :
    DealMoves byOther deals (fun id => (deals id).map fun r => expireDeal r now) none := by
  intro id
  dsimp only
  cases deals id with
  | none => exact .same
  | some r =>
    rw [Option.map_some]
    unfold expireDeal
    split
    · rename_i hlapsed
      exact .expired (lapsed_offered hlapsed)
    · exact .same

theorem transitionDeal_accept_ok
    (h : transitionDeal (some current) (.accept payload) now = .ok next)
    (hstatus : current.status = .offered) (haccepted : next.status = .accepted) :
    ∃ accept, Matches current.offer accept.transfer ∧ next = current.takeUp accept now := by
  change transitionStored current (.accept payload) now = .ok next at h
  unfold transitionStored at h
  rw [if_neg nofun] at h
  simp only [bind_ok, throwIf_ok, exists_unit] at h
  obtain ⟨-, h⟩ := h
  split at h
  · cases h
    cases haccepted
  · rcases transitionAccept_ok h with rfl | ⟨-, htaken⟩
    · cases hstatus.symm.trans haccepted
    · exact htaken

theorem claimOtcAccept_moves {state : OtcState} {accept : Json} {attemptId : Text}
    {claim : AcceptClaim} (h : claimOtcAccept state.deals accept attemptId now = .ok claim) :
    DealMoves byOther state.deals (claim.effect state attemptId).state.deals
      (claim.effect state attemptId).event := by
  unfold claimOtcAccept at h
  dsimp only at h
  split at h
  · cases h
  · rename_i current hcurrent
    split at h
    · cases h
    split at h
    · rename_i hlapsed
      cases h
      have hmove : DealMove byOther (state.deals (OtcDealEvent.accept accept).dealId)
          (some (current.expire now)) none := by
        rw [hcurrent]
        exact .expired hlapsed.1
      exact .put hmove
    · simp only [bind_ok, throwIf_ok, exists_unit, not_or, not_not] at h
      obtain ⟨⟨hstatus, -⟩, next, hnext, ⟨haccepted, -⟩, h⟩ := h
      cases h
      obtain ⟨taken, hmatch, rfl⟩ := transitionDeal_accept_ok hnext hstatus haccepted
      have hmove : DealMove byOther (state.deals (OtcDealEvent.accept accept).dealId)
          (some ((current.takeUp taken now).reserve attemptId now))
          (some (.reserved attemptId)) := by
        rw [hcurrent]
        exact .reserved hstatus hmatch
      exact .put hmove

variable {dealId transactionHash : Text}

theorem markOtcAcceptSubmitted_moves
    (h : markOtcAcceptSubmitted deals dealId transactionHash now = .ok deals') :
    DealMoves byOther deals deals' (some (.deal dealId, .submitted transactionHash)) := by
  unfold markOtcAcceptSubmitted at h
  split at h
  · cases h
  · rename_i current hcurrent
    simp only [bind_ok, throwIf_ok, exists_unit, not_or, not_not] at h
    obtain ⟨⟨hstatus, -, hstate, -⟩, h⟩ := h
    cases h
    have hmove : DealMove byOther (deals dealId) (some (current.submit transactionHash now))
        (some (.submitted transactionHash)) := by
      rw [hcurrent]
      exact .submitted hstatus hstate
    exact .put hmove

theorem confirmOtcAccept_moves
    (h : confirmOtcAccept deals dealId transactionHash now = .ok deals') :
    DealMoves byOther deals deals' none := by
  unfold confirmOtcAccept at h
  split at h
  · cases h
  · rename_i current hcurrent
    simp only [bind_ok, throwIf_ok, exists_unit, not_or, not_not, Bool.not_eq_false] at h
    obtain ⟨⟨hstatus, -, hmatches, -⟩, h⟩ := h
    cases h
    obtain ⟨submitted, hash, hsubmitted, hhash, hequal⟩ := matchesSubmitted_cases hmatches
    cases hhash
    have hmove : DealMove byOther (deals dealId) (some (current.confirm transactionHash now))
        none := by
      rw [hcurrent]
      exact .confirmed hstatus hsubmitted hequal
    exact .put hmove

theorem markOtcAcceptOutcome_moves {outcome : Outcome}
    (h : markOtcAcceptOutcome deals dealId transactionHash outcome now = .ok deals') :
    DealMoves byOther deals deals'
      (outcomeEvent (.deal dealId) (some transactionHash) outcome) := by
  unfold markOtcAcceptOutcome at h
  split at h
  · cases h
  · rename_i current hcurrent
    simp only [bind_ok, throwIf_ok, exists_unit, not_or, not_not, Bool.not_eq_false] at h
    obtain ⟨⟨hstatus, hmatches⟩, h⟩ := h
    cases h
    obtain ⟨submitted, hash, hsubmitted, hhash, hequal⟩ := matchesSubmitted_cases hmatches
    cases hhash
    cases outcome with
    | unknown =>
      have hmove : DealMove byOther (deals dealId)
          (some (current.settle transactionHash .unknown now)) none := by
        rw [hcurrent]
        exact .unknown hstatus hsubmitted
      exact .put hmove
    | reverted =>
      have hmove : DealMove byOther (deals dealId)
          (some (current.settle transactionHash .reverted now))
          (some (.ended (.reverted transactionHash))) := by
        rw [hcurrent]
        exact .reverted hstatus hsubmitted hequal
      exact .put hmove

theorem releaseOtcAccept_moves :
    DealMoves byOther deals (releaseOtcAccept deals dealId now)
      (if (deals dealId).any acceptReleasable then some (.deal dealId, .ended .released)
        else none) := by
  unfold releaseOtcAccept
  split
  · rename_i current hcurrent
    rw [hcurrent, Option.any_some]
    split
    · rename_i hreleasable
      simp only [acceptReleasable, Bool.and_eq_true, decide_eq_true_eq] at hreleasable
      have hmove : DealMove byOther (deals dealId) (some (current.release now))
          (some (.ended .released)) := by
        rw [hcurrent]
        exact .released hreleasable.1.1.1 hreleasable.1.1.2
      exact .put hmove
    · exact .none_of_same fun _ => rfl
  · rename_i hnone
    rw [hnone]
    exact .none_of_same fun _ => rfl

/-- The operation stores a message in which the other party says what it did. -/
def Action.fromOther (a : Action) : Bool :=
  match a.operation with
  | .recordDealEvent event => event.fromOther
  | _ => false

theorem eventOn_payment {requestId id : Text} {e : Event} :
    eventOn (some (Task.payment requestId, e)) (.deal id) = none := by
  unfold eventOn
  exact if_neg Task.noConfusion

theorem perform_deal {build : Build} {a : Action} {state : OtcState} {e : Effect}
    (h : perform build a state = .ok e) :
    DealMoves a.fromOther state.deals e.state.deals e.event := by
  unfold perform at h
  dsimp only at h
  split at h
  · cases h
    exact expireDeal_moves a.now
  · obtain ⟨payments', -, rfl⟩ := map_ok.mp h
    exact .none_of_same fun _ => rfl
  · obtain ⟨payments', -, rfl⟩ := map_ok.mp h
    exact .none_of_same fun _ => rfl
  · obtain ⟨payments', -, rfl⟩ := map_ok.mp h
    exact .none_of_same fun _ => rfl
  · obtain ⟨claim, -, rfl⟩ := map_ok.mp h
    cases claim with
    | expired payments => exact .none_of_same fun _ => rfl
    | claimed requestId payments => exact .none_of_same fun _ => eventOn_payment
  · obtain ⟨claim, -, rfl⟩ := map_ok.mp h
    cases claim with
    | expired payments => exact .none_of_same fun _ => rfl
    | claimed requestId payments => exact .none_of_same fun _ => eventOn_payment
  · obtain ⟨payments', -, rfl⟩ := map_ok.mp h
    exact .none_of_same fun _ => rfl
  · obtain ⟨payments', -, rfl⟩ := map_ok.mp h
    exact .none_of_same fun _ => eventOn_payment
  · obtain ⟨payments', -, rfl⟩ := map_ok.mp h
    exact .none_of_same fun _ => rfl
  · obtain ⟨payments', -, rfl⟩ := map_ok.mp h
    refine .none_of_same fun _ => ?_
    unfold outcomeEvent
    split
    · exact eventOn_payment
    · rfl
  · cases h
    refine .none_of_same fun _ => ?_
    split
    · exact eventOn_payment
    · rfl
  · rename_i event hevent
    obtain ⟨deals', hok, rfl⟩ := map_ok.mp h
    unfold Action.fromOther
    rw [hevent]
    exact recordDealEvent_moves hok
  · obtain ⟨claim, hok, rfl⟩ := map_ok.mp h
    exact claimOtcAccept_moves hok
  · obtain ⟨deals', hok, rfl⟩ := map_ok.mp h
    exact markOtcAcceptSubmitted_moves hok
  · obtain ⟨deals', hok, rfl⟩ := map_ok.mp h
    exact confirmOtcAccept_moves hok
  · obtain ⟨deals', hok, rfl⟩ := map_ok.mp h
    exact markOtcAcceptOutcome_moves hok
  · cases h
    exact releaseOtcAccept_moves

end App20.Otc
