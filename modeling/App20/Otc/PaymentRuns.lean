import App20.Otc.PaymentMoves

/-!
# Runs of payments

What holds of the payments in the storage of a browser, after any operations on any mailboxes.

* `paid_iff`, `pending_iff`: the status of a request and the state of its operation go together.
* `payments_lawful`: a request is reserved again only when every earlier attempt is over, what was
  confirmed stays as it is, and so do the terms of a request.
-/

namespace App20.Otc

open App20.Lib App20.Domain

variable {build : Build} {key id : Text}

/-! ## Phases -/

inductive PaymentPhase (r : PaymentRecord) : Phase Text → Prop
  | idle : r.status ≠ .paid → r.pending = false →
    r.state = none ∨ r.state = some .awaitingNoteMaturity ∨ r.state = some .reverted →
    PaymentPhase r .idle
  | reserved : r.status = .paid → r.pending = true → r.state = some .reserved →
    PaymentPhase r .reserved
  | submitted {operation : ValueOperationRecord} {hash : Text} : r.status = .paid →
    r.pending = true → r.paymentOperation = some operation → operation.state = .submitted →
    operation.transactionHash = some hash → PaymentPhase r (.submitted hash)
  | confirmed : r.status = .paid → r.pending = false → r.state = some .confirmed →
    PaymentPhase r .kept
  | unknown : r.status = .paid → r.pending = true → r.state = some .unknown →
    PaymentPhase r .kept

def paidStates : List ValueOperationState := [.reserved, .submitted, .confirmed, .unknown]
def pendingStates : List ValueOperationState := [.reserved, .submitted, .unknown]

variable {r r' : PaymentRecord} {phase : Phase Text} {a : Action} {attempts : Attempts}
  {event : Option Event} {s : Sys}

theorem state_submitted {operation : ValueOperationRecord}
    (hoperation : r.paymentOperation = some operation) (hstate : operation.state = .submitted) :
    r.state = some .submitted := by
  rw [PaymentRecord.state, hoperation, Option.map_some, hstate]

section

variable (h : PaymentPhase r phase)

include h

theorem paid_iff : r.status = .paid ↔ ∃ state ∈ paidStates, r.state = some state := by
  cases h with
  | idle hstatus hpending hstate =>
    refine ⟨fun hpaid => absurd hpaid hstatus, fun ⟨state, hmem, heq⟩ => ?_⟩
    rw [heq] at hstate
    rcases hstate with hstate | hstate | hstate
    · cases hstate
    · cases hstate
      exact absurd hmem (by decide)
    · cases hstate
      exact absurd hmem (by decide)
  | reserved hstatus hpending hstate | confirmed hstatus hpending hstate
  | unknown hstatus hpending hstate =>
    exact ⟨fun _ => ⟨_, by decide, hstate⟩, fun _ => hstatus⟩
  | submitted hstatus hpending hoperation hstate hhash =>
    exact ⟨fun _ => ⟨_, by decide, state_submitted hoperation hstate⟩, fun _ => hstatus⟩

theorem pending_iff : r.pending = true ↔ ∃ state ∈ pendingStates, r.state = some state := by
  cases h with
  | idle hstatus hpending hstate =>
    refine ⟨fun htrue => absurd (hpending.symm.trans htrue) Bool.false_ne_true,
      fun ⟨state, hmem, heq⟩ => ?_⟩
    rw [heq] at hstate
    rcases hstate with hstate | hstate | hstate
    · cases hstate
    · cases hstate
      exact absurd hmem (by decide)
    · cases hstate
      exact absurd hmem (by decide)
  | reserved hstatus hpending hstate | unknown hstatus hpending hstate =>
    exact ⟨fun _ => ⟨_, by decide, hstate⟩, fun _ => hpending⟩
  | submitted hstatus hpending hoperation hstate hhash =>
    exact ⟨fun _ => ⟨_, by decide, state_submitted hoperation hstate⟩, fun _ => hpending⟩
  | confirmed hstatus hpending hstate =>
    refine ⟨fun htrue => absurd (hpending.symm.trans htrue) Bool.false_ne_true,
      fun ⟨state, hmem, heq⟩ => ?_⟩
    cases hstate.symm.trans heq
    exact absurd hmem (by decide)

theorem PaymentPhase.of_status (hstatus : r.status ≠ .paid) : phase = .idle := by
  cases h with
  | idle => rfl
  | reserved hpaid | submitted hpaid | confirmed hpaid | unknown hpaid => exact absurd hpaid hstatus

theorem PaymentPhase.of_reserved (hreserved : r.state = some .reserved) : phase = .reserved := by
  cases h with
  | idle _ _ hstate =>
    rw [hreserved] at hstate
    rcases hstate with hstate | hstate | hstate <;> cases hstate
  | reserved => rfl
  | submitted _ _ hoperation hstate =>
    cases hreserved.symm.trans (state_submitted hoperation hstate)
  | confirmed _ _ hstate | unknown _ _ hstate => cases hreserved.symm.trans hstate

theorem PaymentPhase.of_submitted (hsubmitted : r.state = some .submitted) :
    ∃ operation hash, r.paymentOperation = some operation ∧
      operation.transactionHash = some hash ∧ phase = .submitted hash := by
  cases h with
  | idle _ _ hstate =>
    rw [hsubmitted] at hstate
    rcases hstate with hstate | hstate | hstate <;> cases hstate
  | reserved _ _ hstate | confirmed _ _ hstate | unknown _ _ hstate =>
    cases hsubmitted.symm.trans hstate
  | submitted _ _ hoperation hstate hhash => exact ⟨_, _, hoperation, hhash, rfl⟩

end

theorem PaymentPhase.of_submittedHash {submitted : Text} (h : PaymentPhase r phase)
    (hsubmitted : r.submittedHash = some submitted) : phase = .submitted submitted := by
  obtain ⟨hstate, operation, hoperation, hhash⟩ := submittedHash_state hsubmitted
  obtain ⟨operation', hash, hoperation', hhash', hphase⟩ := h.of_submitted hstate
  cases hoperation.symm.trans hoperation'
  cases hhash.symm.trans hhash'
  exact hphase

/-- A phase reads the status, the operation and the pending mark of a record. -/
theorem PaymentPhase.congr (h : PaymentPhase r phase)
    (hstatus : r'.status = .paid ↔ r.status = .paid)
    (hoperation : r'.paymentOperation = r.paymentOperation)
    (hpending : r'.paymentPending = r.paymentPending) : PaymentPhase r' phase := by
  have hstate : r'.state = r.state := congrArg (Option.map _) hoperation
  have hpend : r'.pending = r.pending := congrArg (Option.getD · false) hpending
  cases h with
  | idle hs hp ht => exact .idle (hstatus.not.mpr hs) (hpend.trans hp) (hstate ▸ ht)
  | reserved hs hp ht => exact .reserved (hstatus.mpr hs) (hpend.trans hp) (hstate.trans ht)
  | submitted hs hp ho ht hh =>
    exact .submitted (hstatus.mpr hs) (hpend.trans hp) (hoperation.trans ho) ht hh
  | confirmed hs hp ht => exact .confirmed (hstatus.mpr hs) (hpend.trans hp) (hstate.trans ht)
  | unknown hs hp ht => exact .unknown (hstatus.mpr hs) (hpend.trans hp) (hstate.trans ht)

/-! ## Records -/

/-- The request names the network of the mailbox, where it names one. -/
def Bound (build : Build) (key : Text) (request : PaymentRequestPayload) : Prop :=
  ∃ chainId selfAddress, key = otcStorageKey chainId selfAddress ∧
    paymentLinkChainIdsEqual build (request.chainId.getD chainId) chainId = true

/-- A request as it was parsed for this mailbox. -/
structure RequestNormal (build : Build) (key : Text) (request : PaymentRequestPayload) : Prop where
  token : IsNormal request.token.address
  requester : canonicalizeStarknetFelt request.requester = some request.requester
  bound : Bound build key request

structure PaymentLawful (build : Build) (key id : Text) (r : PaymentRecord) (attempts : Attempts) :
    Prop where
  requestId : r.requestId = id
  request : RequestNormal build key r.request
  phase : ∃ phase, PaymentPhase r phase ∧ Tracks feltEquals attempts phase

/-- Without a record, nothing was tried. -/
def PaymentInv (build : Build) (key id : Text) (r : Option PaymentRecord) (attempts : Attempts) :
    Prop :=
  match r with
  | none => attempts = []
  | some r => PaymentLawful build key id r attempts

theorem requestedStatus_ne_paid (request : PaymentRequestPayload) (now : Int) :
    requestedStatus request now ≠ .paid := by
  unfold requestedStatus
  split
  · exact nofun
  · exact nofun

theorem PaymentPhase.settle_reverted {hash : Option Text} {now : Int} :
    PaymentPhase (r.settle hash .reverted now) .idle := by
  refine .idle (requestedStatus_ne_paid r.request now) rfl (.inr ?_)
  unfold PaymentRecord.state PaymentRecord.settle
  dsimp only
  cases operationTakeSettlement r.paymentOperation with
  | none => exact .inr rfl
  | some take => exact .inl rfl

theorem PaymentPhase.release {now : Int} : PaymentPhase (r.release now) .idle := by
  refine .idle (requestedStatus_ne_paid r.request now) rfl ?_
  unfold PaymentRecord.state PaymentRecord.release
  dsimp only
  cases operationTakeSettlement r.paymentOperation with
  | none => exact .inl rfl
  | some take => exact .inr (.inl rfl)

theorem PaymentLawful.move {r' : Option PaymentRecord} (hkey : key = a.key)
    (h : PaymentLawful build key id r attempts)
    (hmove : PaymentMove build a.chainId id (some r) r' event) :
    ∃ r₁, r' = some r₁ ∧ PaymentLawful build key id r₁ (record attempts event) := by
  obtain ⟨hid, hrequest, phase, hphase, htracks⟩ := h
  cases hmove with
  | same => exact ⟨r, rfl, hid, hrequest, phase, hphase, htracks⟩
  | imported hparsed hequal =>
    obtain ⟨htoken, hrequester⟩ := parsePaymentRequestPayload_normal hparsed
    simp only [paymentRequestsEqual, Bool.and_eq_true] at hequal
    exact ⟨_, rfl, hid, ⟨htoken, hrequester, a.chainId, a.selfAddress, hkey, hequal.2⟩, phase,
      hphase.congr Iff.rfl rfl rfl, htracks⟩
  | expired hstatus =>
    refine ⟨_, rfl, hid, hrequest, phase, hphase.congr ?_ rfl rfl, htracks⟩
    rw [hstatus]
    exact ⟨nofun, nofun⟩
  | awaited hstatus =>
    have hidle : phase = .idle := hphase.of_status (hstatus ▸ nofun)
    subst hidle
    exact ⟨_, rfl, hid, hrequest, .idle, .idle (hstatus ▸ nofun) rfl (.inr (.inl rfl)), htracks⟩
  | reserved hstatus =>
    have hidle : phase = .idle := hphase.of_status (hstatus ▸ nofun)
    subst hidle
    exact ⟨_, rfl, hid, hrequest, .reserved, .reserved rfl rfl rfl, htracks.reserve _⟩
  | noted =>
    exact ⟨_, rfl, hid, hrequest, phase, hphase.congr Iff.rfl rfl rfl, htracks⟩
  | submitted hstatus hstate hfelt =>
    have hreserved : phase = .reserved := hphase.of_reserved hstate
    subst hreserved
    exact ⟨_, rfl, hid, hrequest, _, .submitted hstatus rfl rfl rfl rfl, htracks.submit _⟩
  | confirmed hstatus hsubmitted hequal =>
    have hphase' := hphase.of_submittedHash hsubmitted
    subst hphase'
    exact ⟨_, rfl, hid, hrequest, .kept, .confirmed hstatus rfl rfl, htracks.keep_submitted⟩
  | unknown hstatus hstate =>
    refine ⟨_, rfl, hid, hrequest, .kept, .unknown rfl rfl rfl, ?_⟩
    rcases hstate with hreserved | hsubmitted
    · have hphase' := hphase.of_reserved hreserved
      subst hphase'
      exact htracks.keep_reserved
    · obtain ⟨operation, hash, -, -, hphase'⟩ := hphase.of_submitted hsubmitted
      subst hphase'
      exact htracks.keep_submitted
  | reverted hstatus hsubmitted hequal =>
    have hphase' := hphase.of_submittedHash hsubmitted
    subst hphase'
    exact ⟨_, rfl, hid, hrequest, .idle, .settle_reverted, htracks.revert hequal⟩
  | released hstatus hstate =>
    have hphase' := hphase.of_reserved hstate
    subst hphase'
    exact ⟨_, rfl, hid, hrequest, .idle, .release, htracks.release⟩

theorem PaymentInv.move {r r' : Option PaymentRecord} (hkey : key = a.key)
    (h : PaymentInv build key id r attempts) (hmove : PaymentMove build a.chainId id r r' event) :
    PaymentInv build key id r' (record attempts event) := by
  cases r with
  | some r =>
    obtain ⟨r₁, rfl, hlawful⟩ := PaymentLawful.move hkey h hmove
    exact hlawful
  | none =>
    cases hmove with
    | same => exact h
    | @recorded value parsed origin linkAuthenticity now hparsed hid hchain =>
      obtain ⟨htoken, hrequester⟩ := parsePaymentRequestPayload_normal hparsed
      refine ⟨hid, ⟨htoken, hrequester, a.chainId, a.selfAddress, hkey, hchain⟩, .idle,
        .idle (requestedStatus_ne_paid parsed now) rfl (.inl rfl), ?_⟩
      change attempts = [] at h
      rw [h]
      exact fun x hx => (List.not_mem_nil hx).elim

/-! ## Runs -/

/-- Every record of the storage is lawful. -/
def PaymentsLawful (build : Build) (s : Sys) : Prop :=
  ∀ key id, PaymentInv build key id ((s.storage key).payments id) (s.attempts key (.payment id))

theorem PaymentsLawful.keyed (h : PaymentsLawful build s) (key : Text) :
    (s.storage key).payments.Keyed := by
  intro id r hr
  have hinv := h key id
  rw [hr] at hinv
  exact hinv.requestId

/-- A step leaves a request and its attempts as they are, or makes a move. -/
theorem PaymentsLawful.moves (h : PaymentsLawful build s) (a : Action) (key id : Text) :
    (((step build s a).storage key).payments id = (s.storage key).payments id ∧
      (step build s a).attempts key (.payment id) = s.attempts key (.payment id)) ∨
    key = a.key ∧ ∃ event, PaymentMove build a.chainId id ((s.storage key).payments id)
        (((step build s a).storage key).payments id) event ∧
      (step build s a).attempts key (.payment id) =
        record (s.attempts key (.payment id)) event := by
  rcases step_cases build s a key with ⟨hstorage, hattempts⟩ | ⟨hkey, e, he, hstorage, hattempts⟩
  · rw [hstorage, hattempts]
    exact .inl ⟨rfl, rfl⟩
  · refine .inr ⟨hkey, eventOn e.event (.payment id), ?_, hattempts _⟩
    rw [hstorage]
    exact perform_payment (h.keyed key) he id

theorem PaymentsLawful.step (h : PaymentsLawful build s) (a : Action) :
    PaymentsLawful build (step build s a) := by
  intro key id
  rcases h.moves a key id with ⟨hrecord, hattempts⟩ | ⟨hkey, event, hmove, hattempts⟩
  · rw [hrecord, hattempts]
    exact h key id
  · rw [hattempts]
    exact (h key id).move hkey hmove

theorem paymentsLawful_initial : PaymentsLawful build initial := fun _ _ => rfl

/-! ## What stays -/

/-- What is asked for, and until when. -/
structure PaymentTerms where
  requestId : Text
  token : TokenRef
  amount : Text
  memo : Text
  expiresAt : Int
  requester : Text

def PaymentRequestPayload.terms (request : PaymentRequestPayload) : PaymentTerms :=
  ⟨request.requestId, request.token, request.amount, request.memo.getD [], request.expiresAt,
    request.requester⟩

/-- The terms are the same, and so is an operation that was confirmed. -/
structure PaymentKept (r r' : PaymentRecord) : Prop where
  terms : r'.request.terms = r.request.terms
  confirmed : r.state = some .confirmed →
    r'.paymentOperation = r.paymentOperation ∧ r'.paymentTxHash = r.paymentTxHash

theorem PaymentKept.refl (r : PaymentRecord) : PaymentKept r r := ⟨rfl, fun _ => ⟨rfl, rfl⟩⟩

theorem PaymentKept.trans {r'' : PaymentRecord} (h : PaymentKept r r') (h' : PaymentKept r' r'') :
    PaymentKept r r'' := by
  refine ⟨h'.terms.trans h.terms, fun hconfirmed => ?_⟩
  obtain ⟨hoperation, hhash⟩ := h.confirmed hconfirmed
  have hstate : r'.state = some .confirmed := (congrArg (Option.map _) hoperation).trans hconfirmed
  obtain ⟨hoperation', hhash'⟩ := h'.confirmed hstate
  exact ⟨hoperation'.trans hoperation, hhash'.trans hhash⟩

theorem terms_of_equal {left right : PaymentRequestPayload} {chainId : Text}
    (hleft : RequestNormal build key left) (htoken : IsNormal right.token.address)
    (hrequester : canonicalizeStarknetFelt right.requester = some right.requester)
    (h : paymentRequestsEqual build left right chainId = true) : right.terms = left.terms := by
  simp only [paymentRequestsEqual, Bool.and_eq_true, decide_eq_true_eq] at h
  obtain ⟨⟨⟨⟨⟨⟨⟨hid, htokens⟩, hamount⟩, hmemo⟩, hexpires⟩, hrequesters⟩, -⟩, -⟩ := h
  unfold PaymentRequestPayload.terms
  rw [hid, tokenRefsEqual_normal hleft.token htoken htokens, hamount, hmemo, hexpires,
    feltEquals_canonical hleft.requester hrequester hrequesters]

theorem PaymentLawful.kept (h : PaymentLawful build key id r attempts)
    (hmove : PaymentMove build a.chainId id (some r) (some r') event) : PaymentKept r r' := by
  obtain ⟨-, hrequest, phase, hphase, -⟩ := h
  have hpaid : r.state = some .confirmed → r.status = .paid := fun hconfirmed =>
    (paid_iff hphase).mpr ⟨_, by decide, hconfirmed⟩
  have hsubmitted : ∀ {submitted}, r.submittedHash = some submitted → r.state ≠ some .confirmed :=
    fun hhash hconfirmed => by cases hconfirmed.symm.trans (submittedHash_state hhash).1
  cases hmove with
  | same => exact .refl r
  | imported hparsed hequal =>
    obtain ⟨htoken, hrequester⟩ := parsePaymentRequestPayload_normal hparsed
    exact ⟨terms_of_equal hrequest htoken hrequester hequal, fun _ => ⟨rfl, rfl⟩⟩
  | expired hstatus | noted => exact ⟨rfl, fun _ => ⟨rfl, rfl⟩⟩
  | awaited hstatus | reserved hstatus =>
    exact ⟨rfl, fun hconfirmed => by cases hstatus.symm.trans (hpaid hconfirmed)⟩
  | submitted hstatus hstate hfelt | released hstatus hstate =>
    exact ⟨rfl, fun hconfirmed => by cases hstate.symm.trans hconfirmed⟩
  | confirmed hstatus hhash hequal | reverted hstatus hhash hequal =>
    exact ⟨rfl, fun hc => absurd hc (hsubmitted hhash)⟩
  | unknown hstatus hstate =>
    refine ⟨rfl, fun hconfirmed => ?_⟩
    rw [hconfirmed] at hstate
    rcases hstate with hstate | hstate <;> cases hstate

theorem PaymentsLawful.kept_step (h : PaymentsLawful build s) (a : Action)
    (hr : (s.storage key).payments id = some r) :
    ∃ r', ((Otc.step build s a).storage key).payments id = some r' ∧ PaymentKept r r' := by
  rcases h.moves a key id with ⟨hrecord, -⟩ | ⟨hkey, event, hmove, -⟩
  · exact ⟨r, hrecord.trans hr, .refl r⟩
  · have hinv := h key id
    rw [hr] at hinv hmove
    obtain ⟨r', hr', -⟩ := PaymentLawful.move hkey hinv hmove
    rw [hr'] at hmove
    exact ⟨r', hr', PaymentLawful.kept hinv hmove⟩

theorem PaymentsLawful.kept_run (h : PaymentsLawful build s) (as : List Action)
    (hr : (s.storage key).payments id = some r) :
    ∃ r', ((run (Otc.step build) s as).storage key).payments id = some r' ∧ PaymentKept r r' := by
  induction as generalizing s r with
  | nil => exact ⟨r, hr, .refl r⟩
  | cons a as ih =>
    obtain ⟨r₁, hr₁, hkept⟩ := h.kept_step a hr
    obtain ⟨r', hr', hkept'⟩ := ih (h.step a) hr₁
    exact ⟨r', hr', hkept.trans hkept'⟩

/-- The mailbox tells the network of all requests that name one. -/
theorem Bound.same_network {request request' : PaymentRequestPayload}
    (h : Bound build key request) (h' : Bound build key request') {c c' : Text}
    (hc : request.chainId = some c) (hc' : request'.chainId = some c') :
    paymentLinkChainIdsEqual build c c' = true := by
  obtain ⟨chainId, self, rfl, hequal⟩ := h
  obtain ⟨chainId', self', hkey, hequal'⟩ := h'
  rw [hc, Option.getD_some, paymentLinkChainIdsEqual_iff] at hequal
  rw [hc', Option.getD_some, paymentLinkChainIdsEqual_iff] at hequal'
  obtain ⟨network, hnetwork, hchain⟩ := hequal
  obtain ⟨network', hnetwork', hchain'⟩ := hequal'
  have hsame := otcStorageKey_chain hkey hchain hchain'
  rw [hsame, hchain'] at hchain
  cases hchain
  exact paymentLinkChainIdsEqual_iff.mpr ⟨_, hnetwork, hnetwork'⟩

/-- A payment that becomes reserved is a new attempt, after all others are over. -/
theorem PaymentInv.reserves {before : Option PaymentRecord}
    (h : PaymentInv build key id before attempts)
    (hmove : PaymentMove build a.chainId id before (some r') event)
    (hreserved : r'.state = some .reserved)
    (hnew : before.bind PaymentRecord.paymentOperation ≠ r'.paymentOperation) :
    ∃ attemptId, record attempts event = ⟨attemptId, none, none⟩ :: attempts ∧
      ∀ x ∈ attempts, x.Over feltEquals := by
  cases hmove with
  | same => exact absurd rfl hnew
  | recorded => cases hreserved
  | imported | expired => exact absurd rfl hnew
  | awaited => cases hreserved
  | @reserved current attemptId now hstatus =>
    obtain ⟨-, -, phase, hphase, htracks⟩ := h
    have hidle : phase = .idle := hphase.of_status (hstatus ▸ nofun)
    subst hidle
    exact ⟨attemptId, rfl, htracks⟩
  | noted => exact absurd rfl hnew
  | submitted | confirmed | unknown => cases hreserved
  | @reverted current submitted hash now =>
    have hidle : PaymentPhase (current.settle (some hash) .reverted now) .idle := .settle_reverted
    have hphase := hidle.of_reserved hreserved
    cases hphase
  | @released current now =>
    have hidle : PaymentPhase (current.release now) .idle := .release
    have hphase := hidle.of_reserved hreserved
    cases hphase

theorem payments_lawful (build : Build) (as bs : List Action) (a : Action) (key id : Text) :
    let s := run (step build) initial as
    (∀ r, (s.storage key).payments id = some r →
      (r.status = .paid ↔ ∃ state ∈ paidStates, r.state = some state) ∧
      (r.pending = true ↔ ∃ state ∈ pendingStates, r.state = some state)) ∧
    (∀ r', ((step build s a).storage key).payments id = some r' → r'.state = some .reserved →
      ((s.storage key).payments id).bind PaymentRecord.paymentOperation ≠ r'.paymentOperation →
      ∃ attemptId, (step build s a).attempts key (.payment id) =
          ⟨attemptId, none, none⟩ :: s.attempts key (.payment id) ∧
        ∀ x ∈ s.attempts key (.payment id), x.Over feltEquals) ∧
    (∀ r, (s.storage key).payments id = some r →
      ∃ r', ((run (step build) s bs).storage key).payments id = some r' ∧
        r'.request.terms = r.request.terms ∧
        (∀ c ∈ r.request.chainId, ∀ c' ∈ r'.request.chainId,
          paymentLinkChainIdsEqual build c c' = true) ∧
        (r.state = some .confirmed →
          r'.paymentOperation = r.paymentOperation ∧ r'.paymentTxHash = r.paymentTxHash)) := by
  intro s
  have hlawful : PaymentsLawful build s :=
    run_invariant (I := PaymentsLawful build) (fun _ a hs => hs.step a) as paymentsLawful_initial
  refine ⟨fun r hr => ?_, fun r' hr' hreserved hnew => ?_, fun r hr => ?_⟩
  · have hinv := hlawful key id
    rw [hr] at hinv
    obtain ⟨-, -, phase, hphase, -⟩ := hinv
    exact ⟨paid_iff hphase, pending_iff hphase⟩
  · rcases hlawful.moves a key id with ⟨hrecord, -⟩ | ⟨-, event, hmove, hattempts⟩
    · rw [← hrecord, hr'] at hnew
      exact absurd rfl hnew
    · rw [hattempts]
      rw [hr'] at hmove
      exact (hlawful key id).reserves hmove hreserved hnew
  · obtain ⟨r', hr', hkept⟩ := hlawful.kept_run bs hr
    have hinv := hlawful key id
    have hinv' : PaymentInv build key id _ _ :=
      run_invariant (I := PaymentsLawful build) (fun _ a hs => hs.step a) bs hlawful key id
    rw [hr] at hinv
    rw [hr'] at hinv'
    exact ⟨r', hr', hkept.terms, fun c hc c' hc' =>
      hinv.request.bound.same_network hinv'.request.bound hc hc', hkept.confirmed⟩

end App20.Otc
