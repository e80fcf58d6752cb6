import App20.Otc.DealMoves

/-!
# Runs of deals

What holds of the deals in the storage of a browser, after any operations on any mailboxes.

* `DealLawful`: the phase of a deal, and what a closed deal carries.
* `deals_lawful`: at most one acceptance of an offer is outstanding, a new one starts only when every
  earlier one is over, and a closed deal stays as it is.
-/

namespace App20.Otc

open App20.Lib App20.Domain

variable {key id : Text}

/-! ## Phases -/

inductive DealPhase (r : DealRecord) : Phase Text → Prop
  | idle : r.status ≠ .closed → r.verified = false →
    r.state = none ∨ r.state = some .reverted → DealPhase r .idle
  | reserved : r.status = .accepted → r.verified = false → r.state = some .reserved →
    DealPhase r .reserved
  | submitted {operation : ValueOperationRecord} {hash : Text} : r.status = .accepted →
    r.verified = false → r.acceptOperation = some operation → operation.state = .submitted →
    operation.transactionHash = some hash → DealPhase r (.submitted hash)
  | confirmed {operation : ValueOperationRecord} {hash : Text} :
    r.status = .accepted ∨ r.status = .closed → r.acceptOperation = some operation →
    operation.state = .confirmed → operation.transactionHash = some hash →
    r.acceptTxHash = some hash → DealPhase r .kept
  | unknown : r.status = .accepted → r.verified = false → r.state = some .unknown →
    DealPhase r .kept

variable {r r' : DealRecord} {phase : Phase Text} {attempts : Attempts} {byOther : Bool}
  {event : Option Event}

theorem deal_state {operation : ValueOperationRecord} {state : ValueOperationState}
    (hoperation : r.acceptOperation = some operation) (hstate : operation.state = state) :
    r.state = some state := by
  rw [DealRecord.state, hoperation, Option.map_some, hstate]

theorem DealPhase.of_offered (h : DealPhase r phase) (hstatus : r.status = .offered) :
    phase = .idle := by
  cases h with
  | idle => rfl
  | reserved haccepted | submitted haccepted | unknown haccepted =>
    cases hstatus.symm.trans haccepted
  | confirmed heither =>
    rw [hstatus] at heither
    rcases heither with heither | heither <;> cases heither

theorem DealPhase.of_reserved (h : DealPhase r phase) (hreserved : r.state = some .reserved) :
    phase = .reserved := by
  cases h with
  | idle _ _ hstate =>
    rw [hreserved] at hstate
    rcases hstate with hstate | hstate <;> cases hstate
  | reserved => rfl
  | submitted _ _ hoperation hstate | confirmed _ hoperation hstate =>
    cases hreserved.symm.trans (deal_state hoperation hstate)
  | unknown _ _ hstate => cases hreserved.symm.trans hstate

theorem deal_submittedHash {submitted : Text} (h : r.submittedHash = some submitted) :
    ∃ operation, r.acceptOperation = some operation ∧ operation.state = .submitted ∧
      operation.transactionHash = some submitted := by
  unfold DealRecord.submittedHash at h
  split at h
  · rename_i operation hoperation
    split at h
    · rename_i hcond
      exact ⟨operation, hoperation, hcond.1, h⟩
    · cases h
  · cases h

theorem DealPhase.of_submittedHash {submitted : Text} (h : DealPhase r phase)
    (hsubmitted : r.submittedHash = some submitted) : phase = .submitted submitted := by
  obtain ⟨operation, hoperation, hstate, hhash⟩ := deal_submittedHash hsubmitted
  have hsubmittedState := deal_state hoperation hstate
  cases h with
  | idle _ _ hother =>
    rw [hsubmittedState] at hother
    rcases hother with hother | hother <;> cases hother
  | reserved _ _ hother | unknown _ _ hother => cases hsubmittedState.symm.trans hother
  | submitted _ _ hoperation' _ hhash' =>
    cases hoperation.symm.trans hoperation'
    cases hhash.symm.trans hhash'
    rfl
  | confirmed _ hoperation' hother =>
    cases hsubmittedState.symm.trans (deal_state hoperation' hother)

theorem DealPhase.of_verified (h : DealPhase r phase) (hverified : r.verified = true) :
    phase = .kept ∧ ∃ operation hash,
      r.acceptOperation = some operation ∧ operation.state = .confirmed ∧
      operation.transactionHash = some hash ∧ r.acceptTxHash = some hash := by
  cases h with
  | idle _ hfalse | reserved _ hfalse | submitted _ hfalse | unknown _ hfalse =>
    cases hverified.symm.trans hfalse
  | confirmed _ hoperation hstate hhash htx => exact ⟨rfl, _, _, hoperation, hstate, hhash, htx⟩

theorem DealPhase.idle_of (h : DealPhase r .idle) (hstatus : r'.status ≠ .closed)
    (hverified : r'.verified = false) (hoperation : r'.acceptOperation = r.acceptOperation) :
    DealPhase r' .idle := by
  have hstate : r'.state = r.state := congrArg (Option.map _) hoperation
  cases h with
  | idle _ _ ht => exact .idle hstatus hverified (hstate ▸ ht)

theorem DealPhase.not_verified (h : DealPhase r .idle) : r.verified = false := by
  cases h with
  | idle _ hfalse => exact hfalse

theorem DealPhase.congr (h : DealPhase r phase) (hstatus : r'.status = r.status)
    (hoperation : r'.acceptOperation = r.acceptOperation) (hhash : r'.acceptTxHash = r.acceptTxHash)
    (hverified : r'.settlementVerified = r.settlementVerified) : DealPhase r' phase := by
  have hstate : r'.state = r.state := congrArg (Option.map _) hoperation
  have hver : r'.verified = r.verified := congrArg (Option.getD · false) hverified
  cases h with
  | idle hs hv ht => exact .idle (hstatus ▸ hs) (hver.trans hv) (hstate ▸ ht)
  | reserved hs hv ht => exact .reserved (hstatus.trans hs) (hver.trans hv) (hstate.trans ht)
  | submitted hs hv ho ht hh =>
    exact .submitted (hstatus.trans hs) (hver.trans hv) (hoperation.trans ho) ht hh
  | confirmed hs ho ht hh htx =>
    exact .confirmed (hstatus ▸ hs) (hoperation.trans ho) ht hh (hhash.trans htx)
  | unknown hs hv ht => exact .unknown (hstatus.trans hs) (hver.trans hv) (hstate.trans ht)

/-! ## Records -/

/-- What a closed deal carries: its acceptance was confirmed under the hash of the receipt, and both
transfer what was offered. -/
def Settled (r : DealRecord) : Prop :=
  ∃ accept receipt operation hash, r.accept = some accept ∧ r.receipt = some receipt ∧
    r.acceptOperation = some operation ∧ operation.state = .confirmed ∧
    operation.transactionHash = some hash ∧ feltEquals receipt.txHash hash = true ∧
    accept.transfer = r.offer.transfer ∧ receipt.transfer = r.offer.transfer

structure DealLawful (r : DealRecord) (attempts : Attempts) : Prop where
  token : IsNormal r.offer.give.token.address
  offerer : canonicalizeStarknetFelt r.offer.offerer = some r.offer.offerer
  accept : ∀ accept ∈ r.accept, accept.transfer = r.offer.transfer
  phase : ∃ phase, DealPhase r phase ∧ Tracks feltEquals attempts phase
  settled : r.status = .closed → Settled r

/-- Without a record, nothing was tried. -/
def DealInv (r : Option DealRecord) (attempts : Attempts) : Prop :=
  match r with
  | none => attempts = []
  | some r => DealLawful r attempts

theorem Matches.eq {offer : OfferPayload} {transfer : Transfer} (h : Matches offer transfer)
    (htoken : IsNormal offer.give.token.address)
    (hofferer : canonicalizeStarknetFelt offer.offerer = some offer.offerer) :
    transfer = offer.transfer := transfersEqual_normal h.token htoken h.recipient hofferer h.equal

theorem offeredStatus_ne_closed (offer : OfferPayload) (now : Int) :
    offeredStatus offer now ≠ .closed := by
  unfold offeredStatus
  split
  · exact nofun
  · exact nofun

theorem matchesVerifiedAccept_cases {receipt : ReceiptPayload}
    (h : matchesVerifiedAccept r receipt = true) : r.verified = true ∧ ∃ accept hash,
      r.accept = some accept ∧ r.acceptTxHash = some hash ∧
      transfersEqual receipt.transfer accept.transfer = true ∧
      feltEquals receipt.txHash hash = true := by
  unfold matchesVerifiedAccept at h
  rw [Bool.and_eq_true, Bool.and_eq_true] at h
  obtain ⟨⟨-, hverified⟩, h⟩ := h
  split at h
  · rename_i accept hash haccept hhash
    rw [Bool.and_eq_true, Bool.and_eq_true] at h
    exact ⟨hverified, accept, hash, haccept, hhash, h.1.2, h.2⟩
  · cases h

/-- A receipt that matches the confirmed acceptance settles the deal. -/
theorem DealLawful.close (h : DealLawful r attempts) {value : Json} {receipt : ReceiptPayload}
    (now : Int) (hparsed : parseReceiptPayload value = some receipt)
    (hmatch : matchesVerifiedAccept r receipt = true) :
    DealLawful (r.close receipt now) attempts := by
  obtain ⟨htoken, hofferer, haccepts, ⟨phase, hphase, htracks⟩, -⟩ := h
  obtain ⟨hverified, accept, hash, haccept, htx, htransfer, hequal⟩ :=
    matchesVerifiedAccept_cases hmatch
  obtain ⟨hkept, operation, hash', hoperation, hstate, hhash, htx'⟩ := hphase.of_verified hverified
  cases htx.symm.trans htx'
  obtain ⟨hreceiptToken, hreceiptRecipient⟩ := parseReceiptPayload_normal hparsed
  have hoffer := haccepts accept haccept
  rw [hoffer] at htransfer
  have hreceipt : receipt.transfer = r.offer.transfer :=
    transfersEqual_normal hreceiptToken htoken hreceiptRecipient hofferer htransfer
  exact ⟨htoken, hofferer, haccepts,
    ⟨.kept, .confirmed (.inr rfl) hoperation hstate hhash htx, hkept ▸ htracks⟩,
    fun _ => ⟨accept, receipt, operation, hash, haccept, rfl, hoperation, hstate, hhash, hequal,
      hoffer, hreceipt⟩⟩

theorem DealLawful.move {r' : Option DealRecord} (h : DealLawful r attempts)
    (hmove : DealMove byOther (some r) r' event) :
    ∃ r₁, r' = some r₁ ∧ DealLawful r₁ (record attempts event) := by
  have hlawful := h
  obtain ⟨htoken, hofferer, haccept, ⟨phase, hphase, htracks⟩, hsettled⟩ := h
  cases hmove with
  | same => exact ⟨r, rfl, hlawful⟩
  | expired hstatus | declined hstatus =>
    have hidle := hphase.of_offered hstatus
    subst hidle
    exact ⟨_, rfl, htoken, hofferer, haccept,
      ⟨.idle, hphase.idle_of nofun hphase.not_verified rfl, htracks⟩, nofun⟩
  | notedAccept | notedReceipt =>
    exact ⟨_, rfl, htoken, hofferer, haccept, ⟨phase, hphase.congr rfl rfl rfl rfl, htracks⟩,
      hsettled⟩
  | taken hstatus hmatch =>
    have hidle := hphase.of_offered hstatus
    subst hidle
    refine ⟨_, rfl, htoken, hofferer, fun accept ha => ?_,
      ⟨.idle, hphase.idle_of nofun rfl rfl, htracks⟩, nofun⟩
    cases ha
    exact hmatch.eq htoken hofferer
  | closed hparsed hmatch => exact ⟨_, rfl, hlawful.close _ hparsed hmatch⟩
  | reserved hstatus hmatch =>
    have hidle := hphase.of_offered hstatus
    subst hidle
    refine ⟨_, rfl, htoken, hofferer, fun accept ha => ?_,
      ⟨.reserved, .reserved rfl rfl rfl, htracks.reserve _⟩, nofun⟩
    cases ha
    exact hmatch.eq htoken hofferer
  | submitted hstatus hstate =>
    have hreserved := hphase.of_reserved hstate
    subst hreserved
    exact ⟨_, rfl, htoken, hofferer, haccept,
      ⟨_, .submitted hstatus rfl rfl rfl rfl, htracks.submit _⟩,
      fun hclosed => by cases hstatus.symm.trans hclosed⟩
  | confirmed hstatus hsubmitted hequal =>
    have hphase' := hphase.of_submittedHash hsubmitted
    subst hphase'
    exact ⟨_, rfl, htoken, hofferer, haccept,
      ⟨.kept, .confirmed (.inl hstatus) rfl rfl rfl rfl, htracks.keep_submitted⟩,
      fun hclosed => by cases hstatus.symm.trans hclosed⟩
  | unknown hstatus hsubmitted =>
    have hphase' := hphase.of_submittedHash hsubmitted
    subst hphase'
    exact ⟨_, rfl, htoken, hofferer, haccept,
      ⟨.kept, .unknown hstatus rfl rfl, htracks.keep_submitted⟩,
      fun hclosed => by cases hstatus.symm.trans hclosed⟩
  | reverted hstatus hsubmitted hequal =>
    have hphase' := hphase.of_submittedHash hsubmitted
    subst hphase'
    exact ⟨_, rfl, htoken, hofferer, nofun,
      ⟨.idle, .idle (offeredStatus_ne_closed _ _) rfl (.inr rfl), htracks.revert hequal⟩,
      fun hclosed => absurd hclosed (offeredStatus_ne_closed _ _)⟩
  | released hstatus hstate =>
    have hreserved := hphase.of_reserved hstate
    subst hreserved
    exact ⟨_, rfl, htoken, hofferer, nofun,
      ⟨.idle, .idle (offeredStatus_ne_closed _ _) rfl (.inl rfl), htracks.release⟩,
      fun hclosed => absurd hclosed (offeredStatus_ne_closed _ _)⟩

theorem DealInv.move {r r' : Option DealRecord} (h : DealInv r attempts)
    (hmove : DealMove byOther r r' event) : DealInv r' (record attempts event) := by
  cases r with
  | some r =>
    obtain ⟨r₁, rfl, hlawful⟩ := DealLawful.move h hmove
    exact hlawful
  | none =>
    cases hmove with
    | same => exact h
    | offered hparsed =>
      obtain ⟨htoken, hofferer⟩ := parseOfferPayload_normal hparsed
      refine ⟨htoken, hofferer, nofun,
        ⟨.idle, .idle (offeredStatus_ne_closed _ _) rfl (.inl rfl), ?_⟩,
        fun hclosed => absurd hclosed (offeredStatus_ne_closed _ _)⟩
      change attempts = [] at h
      rw [h]
      exact fun x hx => (List.not_mem_nil hx).elim

/-! ## What stays -/

/-- The record without what the other party says. -/
def DealRecord.own (r : DealRecord) : DealRecord :=
  { r with counterpartyAcceptClaim := none, counterpartyReceiptClaim := none, updatedAt := 0 }

/-- The offer stays, a closed deal does, and what the other party says is noted by its messages
only. -/
structure DealKept (byOther : Bool) (r r' : DealRecord) : Prop where
  offer : r'.offer = r.offer
  closed : r.status = .closed → r'.own = r.own
  exact : r.status = .closed → byOther = false → r' = r

theorem DealKept.of_open (hstatus : r.status ≠ .closed) (hoffer : r'.offer = r.offer) :
    DealKept byOther r r' :=
  ⟨hoffer, fun hclosed => absurd hclosed hstatus, fun hclosed => absurd hclosed hstatus⟩

theorem deal_kept (hmove : DealMove byOther (some r) (some r') event) : DealKept byOther r r' := by
  cases hmove with
  | same => exact ⟨rfl, fun _ => rfl, fun _ _ => rfl⟩
  | expired hstatus | taken hstatus | declined hstatus | reserved hstatus | submitted hstatus
  | confirmed hstatus | unknown hstatus | reverted hstatus | released hstatus =>
    exact .of_open (hstatus ▸ nofun) rfl
  | notedAccept hother | notedReceipt hother =>
    exact ⟨rfl, fun _ => rfl, fun _ hfalse => by cases hother.symm.trans hfalse⟩
  | closed _ _ hne => exact .of_open hne rfl

theorem DealKept.trans {b c : Bool} {r'' : DealRecord} (h : DealKept b r r')
    (h' : DealKept c r' r'') : DealKept (b || c) r r'' := by
  have hstatus : r.status = .closed → r'.status = .closed := fun hclosed =>
    (congrArg DealRecord.status (h.closed hclosed)).trans hclosed
  refine ⟨h'.offer.trans h.offer, fun hclosed => ?_, fun hclosed hfalse => ?_⟩
  · exact (h'.closed (hstatus hclosed)).trans (h.closed hclosed)
  · obtain ⟨hb, hc⟩ := Bool.or_eq_false_iff.mp hfalse
    exact (h'.exact (hstatus hclosed) hc).trans (h.exact hclosed hb)

/-! ## Runs -/

/-- Every record of the storage is lawful. -/
def DealsLawful (s : Sys) : Prop :=
  ∀ key id, DealInv ((s.storage key).deals id) (s.attempts key (.deal id))

theorem deal_moves (build : Build) (s : Sys) (a : Action) (key id : Text) :
    ∃ event, DealMove a.fromOther ((s.storage key).deals id)
        (((step build s a).storage key).deals id) event ∧
      (step build s a).attempts key (.deal id) = record (s.attempts key (.deal id)) event := by
  rcases step_cases build s a key with ⟨hstorage, hattempts⟩ | ⟨-, e, he, hstorage, hattempts⟩
  · rw [hstorage, hattempts]
    exact ⟨none, .same, rfl⟩
  · refine ⟨eventOn e.event (.deal id), ?_, hattempts _⟩
    rw [hstorage]
    exact perform_deal he id

theorem DealsLawful.step (build : Build) {s : Sys} (h : DealsLawful s) (a : Action) :
    DealsLawful (step build s a) := by
  intro key id
  obtain ⟨event, hmove, hattempts⟩ := deal_moves build s a key id
  rw [hattempts]
  exact (h key id).move hmove

theorem dealsLawful_initial : DealsLawful initial := fun _ _ => rfl

theorem deal_some_of_some {r' : Option DealRecord} (hmove : DealMove byOther (some r) r' event) :
    ∃ r₁, r' = some r₁ := by
  cases hmove <;> exact ⟨_, rfl⟩

theorem deal_kept_run (build : Build) (s : Sys) (as : List Action)
    (hr : (s.storage key).deals id = some r) :
    ∃ r', ((run (step build) s as).storage key).deals id = some r' ∧
      DealKept (as.any Action.fromOther) r r' := by
  induction as generalizing s r with
  | nil => exact ⟨r, hr, rfl, fun _ => rfl, fun _ _ => rfl⟩
  | cons a as ih =>
    obtain ⟨event, hmove, -⟩ := deal_moves build s a key id
    rw [hr] at hmove
    obtain ⟨r₁, hr₁⟩ := deal_some_of_some hmove
    rw [hr₁] at hmove
    obtain ⟨r', hr', hkept⟩ := ih (step build s a) hr₁
    rw [List.any_cons]
    exact ⟨r', hr', (deal_kept hmove).trans hkept⟩

/-- An acceptance that becomes reserved is a new attempt, after all others are over. -/
theorem DealInv.reserves {before : Option DealRecord} (h : DealInv before attempts)
    (hmove : DealMove byOther before (some r') event) (hreserved : r'.state = some .reserved)
    (hnew : before.bind DealRecord.acceptOperation ≠ r'.acceptOperation) :
    ∃ attemptId, record attempts event = ⟨attemptId, none, none⟩ :: attempts ∧
      ∀ x ∈ attempts, x.Over feltEquals := by
  cases hmove with
  | same => exact absurd rfl hnew
  | offered => cases hreserved
  | expired | notedAccept | notedReceipt | taken | declined | closed => exact absurd rfl hnew
  | @reserved current accept attemptId now hstatus =>
    obtain ⟨-, -, -, ⟨phase, hphase, htracks⟩, -⟩ := h
    have hidle : phase = .idle := hphase.of_offered hstatus
    subst hidle
    exact ⟨attemptId, rfl, htracks⟩
  | submitted | confirmed | unknown | reverted | released => cases hreserved

theorem DealInv.at_most_one {r : Option DealRecord} (h : DealInv r attempts) :
    (attempts.filter fun a => a.ending.isNone).length ≤ 1 := by
  cases r with
  | none =>
    change attempts = [] at h
    rw [h]
    exact Nat.zero_le 1
  | some r =>
    obtain ⟨phase, -, htracks⟩ := h.phase
    exact htracks.at_most_one

theorem deals_lawful (build : Build) (as bs : List Action) (a : Action) (key id : Text) :
    let s := run (step build) initial as
    ((s.attempts key (.deal id)).filter fun x => x.ending.isNone).length ≤ 1 ∧
    (∀ r', ((step build s a).storage key).deals id = some r' → r'.state = some .reserved →
      ((s.storage key).deals id).bind DealRecord.acceptOperation ≠ r'.acceptOperation →
      ∃ attemptId, (step build s a).attempts key (.deal id) =
          ⟨attemptId, none, none⟩ :: s.attempts key (.deal id) ∧
        ∀ x ∈ s.attempts key (.deal id), x.Over feltEquals) ∧
    (∀ r, (s.storage key).deals id = some r → (r.status = .closed → Settled r) ∧
      ∃ r', ((run (step build) s bs).storage key).deals id = some r' ∧ r'.offer = r.offer ∧
        (r.status = .closed → r'.own = r.own ∧ (bs.any Action.fromOther = false → r' = r))) := by
  intro s
  have hlawful : DealsLawful s :=
    run_invariant (I := DealsLawful) (fun _ a hs => hs.step build a) as dealsLawful_initial
  refine ⟨(hlawful key id).at_most_one, fun r' hr' hreserved hnew => ?_, fun r hr => ?_⟩
  · obtain ⟨event, hmove, hattempts⟩ := deal_moves build s a key id
    rw [hattempts]
    rw [hr'] at hmove
    exact (hlawful key id).reserves hmove hreserved hnew
  · have hinv := hlawful key id
    rw [hr] at hinv
    obtain ⟨r', hr', hkept⟩ := deal_kept_run build s bs hr
    exact ⟨hinv.settled, r', hr', hkept.offer,
      fun hclosed => ⟨hkept.closed hclosed, hkept.exact hclosed⟩⟩

end App20.Otc
