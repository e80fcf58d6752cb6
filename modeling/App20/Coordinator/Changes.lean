import App20.Coordinator.TakeChanges

/-!
# What the coordinator changes

Every serialized part changes the requests, reservations and deals in one of a few ways. The moves of a
request are listed with what the coordinator has checked before each; what is proved of requests, records
and deals is proved of these changes.

* `checkRequest_ok`: the fields of a request that is stored agree with its state.
* `apply_change`: an operation in one part.
-/

namespace App20.Coordinator

open App20.Lib App20.Domain
open Relation (ReflTransGen)

/-! ## Stored requests -/

/-- The fields of a request have what its state needs. -/
structure Request.Consistent (r : Request) : Prop where
  pending : r.state = .selectionPending → r.pendingSelection.isSome = true ∧ r.selection = none
  pendingOnly : r.state ≠ .selectionPending → r.pendingSelection = none
  selection : r.state.needsSelection = true → r.selection.isSome = true
  ticket : r.state.isTicket = true → r.ticketAttemptId.isSome = true ∧
    r.ticketDealId.isSome = true ∧ r.ticketSettlementTerms.isSome = true
  ticketReady : r.state = .ticketReady → r.ticketAuthorization.isSome = true
  funding : r.state.isFunding = true → r.fundingAttemptId.isSome = true
  releasing : r.state.isReleasing = true → r.releaseLeaseId.isSome = true
  agrees : ∀ t ∈ r.ticketAuthorization, t.Agrees r

variable {r r' : Request} {input : Deal} {intentDigest attemptId leaseId : Text}
  {terms : SettlementTerms} {stamp clock now : Int} {b : Authority} {record : Record}
  {key : RecordKey} {t : Task}

theorem checkRequest_ok : checkRequest r = .ok r' ↔ r' = r ∧ r.Consistent := by
  have hsome {α : Type} {o : Option α} : ¬ o.isNone = true ↔ o.isSome = true := by
    cases o <;> simp
  have hnone {α : Type} {o : Option α} : ¬ o.isSome = true ↔ o = none := by
    cases o <;> simp
  simp only [checkRequest, bind_ok, throwIf_ok, pure_ok, exists_const, not_and,
    not_or, not_not, hsome, hnone]
  constructor
  · rintro ⟨h1, h2, h3, h4, h5, h6, h7, h8, rfl⟩
    exact ⟨rfl, h1, h2, h3, h4, h5, h6, h7, h8⟩
  · rintro ⟨rfl, h⟩
    exact ⟨h.pending, h.pendingOnly, h.selection, h.ticket, h.ticketReady, h.funding, h.releasing,
      h.agrees, rfl⟩

def RequestState.isFunded : RequestState → Bool
  | .funded | .filled | .settled | .expired | .refunded | .authorityQuarantined => true
  | _ => false

theorem RequestState.isFunded_of_bound {state : RequestState}
    (h : ¬ (state ≠ .funded ∧ state ≠ .filled ∧ state ≠ .settled ∧ state ≠ .expired)) :
    state.isFunded = true := by
  cases state <;> simp_all [isFunded]

theorem TerminalOutcome.follows_filled {state : RequestState}
    (h : TerminalOutcome.filled.follows state = true) : state = .funded := by
  cases state <;> simp_all [follows]

/-! ## What a step may do -/

/-- The limits of the coordinator, the records that may be filled and the reservations that may be
released in a step, whether it is the acknowledgement of a selection or of a ticket, and the operations
of v3 requests that it may be. -/
structure Scope where
  limits : Limits
  fillable : Record → Prop
  releasable : RecordKey → Prop
  confirms : Prop
  persists : Prop
  takes : V3Operation → Prop

/-! ## Moves of a request -/

/-- A request that another one comes of in one operation, with what was checked of it. -/
inductive Move (scope : Scope) (a : Authority) (r : Request) : Request → Prop
  | refuse {makerId : Text} {plan : MakerPlan}
      (hplan : Authority.planOf r.makerPlans makerId = some plan) (hstate : plan.state ≠ .responded) :
      Move scope a r { r with makerPlans := Authority.setPlan r.makerPlans makerId .refused }
  | respond {makerId : Text} :
      Move scope a r { r with makerPlans := Authority.setPlan r.makerPlans makerId .responded }
  | complete : Move scope a r { r with fanoutComplete := true }
  | completeReleased (hresolved : a.unresolved r.intentDigest = [])
      (hwhy : r.state = .releasePending ∨ (r.makerPlans ≠ [] ∧
        ∀ plan ∈ r.makerPlans, plan.state = .refused)) :
      Move scope a r { r with fanoutComplete := true, state := .released }
  | select {p : PendingSelection} (hselection : r.selection = none) (hstate : r.state = .opened) :
      Move scope a r { r with state := .selectionPending, pendingSelection := some p }
  | quarantine {notice : AuthorityNotice} (hstate : r.state = .authorityQuarantined ∨
        r.state = .filled ∨ r.state = .settled ∨ r.state = .expired ∨ r.state = .refunded) :
      Move scope a r { r with state := .authorityQuarantined, authority := some notice }
  | ticket {id dealId : Text} {terms : TicketTerms} (hstate : r.state = .selected) :
      Move scope a r { r with
        state := .ticketPending, ticketAttemptId := some id, ticketDealId := some dealId
        ticketSettlementTerms := some terms }
  | ticketReady {ticket : TicketAuthorization} {terms : SettlementTerms}
      (hpersists : scope.persists) (hstate : r.state.isTicket = true) :
      Move scope a r { r with
        state := .ticketReady, ticketAuthorization := some ticket, settlementTerms := some terms }
  | prepareFunding {id : Text} {terms : SettlementTerms} (hstate : r.state = .ticketReady) :
      Move scope a r { r with
        state := .fundingPending, fundingAttemptId := some id, settlementTerms := some terms }
  | fundingUnknown (hstate : r.state.isFunding = true) : Move scope a r { r with state := .fundingUnknown }
  | abandonTicket {id : Text} (hstate : r.state = .ticketReady) :
      Move scope a r { r with state := .selected, abandonedFundingAttemptId := some id }
  | close {id : Text} {terms : SettlementTerms}
      (hstate : r.state.isReleasing = true ∨ r.state = .released ∨ r.state = .selected) :
      Move scope a r { r with settlementTerms := some terms, abandonedFundingAttemptId := some id }
  | abandonFunding {id : Text} (hstate : r.state = .fundingPending) :
      Move scope a r { r with
        fundingAttemptId := none, state := .selected, abandonedFundingAttemptId := some id }
  | lease {id : Text} (hid : ∃ input, requireAttemptId input "releaseLeaseId" = .ok id)
      (hstate : r.state = .opened ∨ r.state = .selected ∨ r.state = .ticketReady)
      (hdeal : ∀ d ∈ a.deals.entries, d.binding.intentDigest ≠ r.intentDigest) :
      Move scope a r { r with state := .releaseCheck, releaseLeaseId := some id }
  | prepareRelease {completed : Request} (hstate : r.state.isReleasing = true)
      (hcompleted : completed = r ∨ completed = Authority.expirePlans r) :
      Move scope a r { completed with state := .releasePending }
  | released (hstate : r.state = .releasePending) (hfanout : r.fanoutComplete = true)
      (hresolved : a.unresolved r.intentDigest = []) : Move scope a r { r with state := .released }
  | late (hstate : r.state.isReleasing = true ∨ r.state.isTerminal = true) :
      Move scope a r { r with state := .releasePending }
  | terminal {outcome : TerminalOutcome} (hfollows : outcome.follows r.state = true) :
      Move scope a r { r with state := outcome.state }
  | expirePlans : Move scope a r (Authority.expirePlans r)

/-- A record that is put: a reservation that is registered, or a stored record in another state. -/
inductive RecordMove (releasable : RecordKey → Prop) (a : Authority) : Record → Prop
  | register {r : Request} {c : Record} (hnew : a.records.get? c.key = none)
      (hrequest : a.requests.get? c.key.intentDigest = some r)
      (hplan : r.makerPlans = [] ∨
        (Authority.planOf r.makerPlans c.key.pending.makerId).map MakerPlan.state = some .responded)
      (hstate : c.state = if r.state = .opened then .reserved else .releasePending)
      (hauthorization : c.authorization = none) : RecordMove releasable a c
  | release {c : Record} {state : RecordState} (hc : a.records.get? c.key = some c)
      (hpending : c.state.isFinal = false) (hreleasable : releasable c.key)
      (hstate : state = .expired ∨ state = .releasePending ∨ state = .released) :
      RecordMove releasable a { c with state }

def Operation.fills (a : Authority) : Operation → Option Record
  | .terminalize input .filled =>
    match a.exactRequest input "Terminal outcome" with
    | .ok (r, target) =>
      if r.state = .funded then
        a.records.get? ⟨target.binding.intentDigest, target.selection.pending⟩
      else none
    | .error _ => none
  | _ => none

/-- The operations that need the acknowledgement of a maker, or a ticket. -/
def Operation.Confirms : Operation → Prop
  | .confirmSelection _ _ => True
  | _ => False

def Operation.Persists : Operation → Prop
  | .persistFundingTicket _ _ _ => True
  | _ => False

/-- The records that an operation may fill, and what it may be. -/
structure Scope.Permits (scope : Scope) (a : Authority) (operation : Operation) : Prop where
  fills : ∀ c ∈ operation.fills a, scope.fillable c
  confirms : operation.Confirms → scope.confirms
  persists : operation.Persists → scope.persists
  takes : ∀ op, operation = .v3 op → scope.takes op

def Step.Permitted (scope : Scope) (a : Authority) : Step → Prop
  | .operation performed _ => scope.Permits a performed
  | _ => True

def Step.fills (a : Authority) : Step → Option Record
  | .operation performed _ => performed.fills a
  | _ => none

theorem Step.permitted {scope : Scope} {a : Authority} {st : Step}
    (hfill : ∀ c ∈ st.fills a, scope.fillable c) (hconfirms : scope.confirms)
    (hpersists : scope.persists) (htakes : ∀ op, scope.takes op) : st.Permitted scope a := by
  cases st with
  | operation performed clock =>
    exact ⟨hfill, fun _ => hconfirms, fun _ => hpersists, fun op _ => htakes op⟩
  | _ => trivial

/-- The scope of changes that need not be kept within bounds. -/
def anyScope (limits : Limits) : Scope :=
  ⟨limits, fun _ => True, fun _ => True, True, True, fun _ => True⟩

inductive Change (scope : Scope) (a : Authority) : Authority → Prop
  | same {b : Authority} (hrecords : b.records = a.records) (hrequests : b.requests = a.requests)
      (hdeals : b.deals = a.deals) (hv3 : Authority.V3Progress scope.limits scope.takes a b) :
      Change scope a b
  | begins {r : Request} (hnew : a.requests.get? r.intentDigest = none)
      (hrfq : (a.rfqOwner r.binding.rfqId).any (· ≠ r.intentDigest) = false)
      (hstart : r.state = .opened ∧ ¬ a.HoldsMarket r ∨ r.state = .releaseCheck ∧ r.market = none)
      (hlease : ∀ id ∈ r.releaseLeaseId, r.state = .releaseCheck ∧
        ∃ input, requireAttemptId input "releaseLeaseId" = .ok id)
      (hselection : r.selection = none) (hbinding : ∃ input, requestBinding input = .ok r.binding)
      (hok : r.Consistent) : Change scope a (a.putRequest r)
  | request {r r' : Request} (hr : a.requests.get? r.intentDigest = some r) (hmove : Move scope a r r')
      (hok : r'.Consistent) : Change scope a (a.putRequest r')
  | record {c : Record} (hmove : RecordMove scope.releasable a c) : Change scope a (a.putRecord c)
  | confirm {r : Request} {c : Record} {s : Selection} (hconfirms : scope.confirms)
      (hr : a.requests.get? r.intentDigest = some r)
      (hc : a.records.get? ⟨r.intentDigest, s.pending⟩ = some c) (hheld : c.state.isHeld = true)
      (hselection : r.selection = none) (hstate : r.state = .selectionPending)
      (hok : ({ r with
        pendingSelection := none, state := .selected, selection := some s } : Request).Consistent) :
      Change scope a ((a.putRecord { c with
        state := .selected, authorization := some (s.fence, s.quoteDigest) }).putRequest { r with
          pendingSelection := none, state := .selected, selection := some s })
  | fund {r r' : Request} {d : Deal} (hr : a.requests.get? r.intentDigest = some r)
      (hmove : r' = { r with state := .funded } ∧ (r.state.isFunding = true ∨ r.state = .funded) ∨
        r' = { r with releaseLeaseId := none, state := .funded } ∧ r.state = .releaseCheck)
      (hdeal : d = ⟨r.binding, r.binding.rfqId, d.selection⟩)
      (hselection : r.selection = some d.selection)
      (hfree : ∀ prior ∈ a.deals.get? d.dealId, prior = d) (hok : r'.Consistent) :
      Change scope a ((a.putDeal d).putRequest r')
  | bind {r : Request} {d : Deal} (hr : a.requests.get? r.intentDigest = some r)
      (hfunded : r.state.isFunded = true) (hdeal : d = ⟨r.binding, r.binding.rfqId, d.selection⟩)
      (hselection : r.selection = some d.selection)
      (hfree : ∀ prior ∈ a.deals.get? d.dealId, prior = d) : Change scope a (a.putDeal d)
  | fill {r : Request} {c : Record} {s : Selection} (hr : a.requests.get? r.intentDigest = some r)
      (hstate : r.state = .funded) (hselection : r.selection = some s)
      (hc : a.records.get? ⟨r.intentDigest, s.pending⟩ = some c) (hfill : scope.fillable c)
      (hok : ({ r with state := .filled } : Request).Consistent) :
      Change scope a ((a.putRecord { c with state := .consumed }).putRequest { r with state := .filled })

namespace Authority

variable {a next : Authority} {config : Config} {scope : Scope}

theorem after_change {α : Type} {res : Except String (Outcome α)}
    (h : ∀ next result, res = .ok (.stored next result) → Change scope a next) :
    Change scope a (a.after res) := by
  cases res with
  | error e => exact .same rfl rfl rfl (.same rfl)
  | ok outcome =>
    cases outcome with
    | kept result => exact .same rfl rfl rfl (.same rfl)
    | stored next result => exact h next result rfl

theorem requestOf_ok {digest : Text} {missing : String} (h : a.requestOf digest missing = .ok r) :
    r.intentDigest = digest ∧ a.requests.get? r.intentDigest = some r := by
  unfold requestOf at h
  split at h
  · rename_i request hrequest
    cases h
    have hkey := (Table.get?_eq_some.mp hrequest).2
    exact ⟨hkey, hkey.symm ▸ hrequest⟩
  · cases h

theorem exactRequest_ok {target : Deal} {action : String}
    (h : a.exactRequest input action = .ok (r, target)) :
    a.requests.get? r.intentDigest = some r ∧
      target = ⟨r.binding, r.binding.rfqId, target.selection⟩ ∧
      r.selection = some target.selection := by
  simp only [exactRequest, bind_ok, throwIf_ok, not_not] at h
  obtain ⟨t, -, _, hdeal, h⟩ := h
  split at h
  · cases h
  · rename_i request hrequest
    simp only [bind_ok, throwIf_ok, not_not, pure_ok, Prod.mk.injEq] at h
    obtain ⟨_, hbinding, _, hselection, rfl, rfl⟩ := h
    have hkey := (Table.get?_eq_some.mp hrequest).2
    refine ⟨hkey.symm ▸ hrequest, ?_, hselection⟩
    cases target
    simp_all

theorem store_change {result : Request} (hr : a.requests.get? r.intentDigest = some r)
    (hmove : Move scope a r r') (h : ∃ n, checkRequest r' = .ok n ∧
      Outcome.stored next result = Outcome.stored (a.putRequest n) n) : Change scope a next := by
  obtain ⟨n, hn, hnext⟩ := h
  obtain ⟨rfl, hok⟩ := checkRequest_ok.mp hn
  cases hnext
  exact .request hr hmove hok

/-! ## Requests and their fanout -/

theorem beginningRequest_ok {localeCompare : Text → Text → Ordering} {input : RequestInput}
    (h : beginningRequest localeCompare input = .ok r) :
    r.Consistent ∧ requestBinding input.binding = .ok r.binding ∧
      ∃ binding createdAt expiresAt plans market,
        r = freshRequest binding createdAt expiresAt plans market := by
  simp only [beginningRequest, bind_ok] at h
  obtain ⟨binding, hbinding, createdAt, -, expiresAt, -, plans, -, market, -, h⟩ := h
  obtain ⟨rfl, hok⟩ := checkRequest_ok.mp h
  exact ⟨hok, hbinding, _, _, _, _, _, rfl⟩

theorem beginRequest_change {input : RequestInput} :
    Change scope a (a.after (a.beginRequest config.localeCompare input)) := by
  refine after_change fun next result h => ?_
  simp only [beginRequest, bind_ok] at h
  obtain ⟨r, hbegins, h⟩ := h
  obtain ⟨hok, hbinding, _, _, _, _, _, rfl⟩ := beginningRequest_ok hbegins
  split at h <;> simp only [bind_ok, throwIf_ok, pure_ok] at h
  · obtain ⟨_, -, _, -, h⟩ := h
    cases h
  · rename_i hnone
    obtain ⟨_, hrfq, _, -, _, hmarket, h⟩ := h
    cases h
    exact .begins hnone (Bool.eq_false_of_not_eq_true hrfq) (Or.inl ⟨rfl, hmarket⟩)
      (fun id hid => by cases hid) rfl ⟨_, hbinding⟩ hok

theorem markFanoutRefused_change {makerId : Text} :
    Change scope a (a.after (a.markFanoutRefused intentDigest makerId)) := by
  refine after_change fun next result h => ?_
  simp only [markFanoutRefused, bind_ok] at h
  obtain ⟨_, -, maker, -, r, hr, h⟩ := h
  split at h
  · cases h
  · rename_i plan hplan
    split at h
    · cases h
    · rename_i hstate
      simp only [bind_ok, pure_ok] at h
      exact store_change (requestOf_ok hr).2 (.refuse hplan hstate) h

theorem completeRequestFanout_change :
    Change scope a (a.after (a.completeRequestFanout intentDigest)) := by
  refine after_change fun next result h => ?_
  simp only [completeRequestFanout, bind_ok, pure_ok] at h
  obtain ⟨digest, -, r, hr, _, -, h⟩ := h
  obtain ⟨rfl, hget⟩ := requestOf_ok hr
  split at h
  · rename_i hreleased
    refine store_change hget (.completeReleased hreleased.1 ?_) h
    simpa using hreleased.2
  · exact store_change hget .complete h

/-! ## Selections -/

theorem beginSelection_change {input : PendingSelection} :
    Change scope a (a.after (a.beginSelection intentDigest input)) := by
  refine after_change fun next result h => ?_
  simp only [beginSelection, bind_ok] at h
  obtain ⟨_, -, _, -, _, -, r, hr, h⟩ := h
  split at h
  · simp only [bind_ok, pure_ok] at h
    obtain ⟨_, -, h⟩ := h
    cases h
  · rename_i hselection
    split at h <;> simp only [bind_ok, pure_ok, throwIf_ok, not_not] at h
    · obtain ⟨_, -, h⟩ := h
      cases h
    · obtain ⟨_, hstate, h⟩ := h
      exact store_change (requestOf_ok hr).2 (.select hselection hstate) h

theorem confirmSelection_change {input : Selection} (hconfirms : scope.confirms) :
    Change scope a (a.after (a.confirmSelection intentDigest input)) := by
  refine after_change fun next result h => ?_
  simp only [confirmSelection, bind_ok] at h
  obtain ⟨digest, -, selection, -, h⟩ := h
  split at h
  · cases h
  · rename_i prior hprior
    simp only [bind_ok, throwIf_ok] at h
    obtain ⟨_, hheld, r, hr, h⟩ := h
    obtain ⟨rfl, hget⟩ := requestOf_ok hr
    split at h
    · simp only [bind_ok, pure_ok] at h
      obtain ⟨_, -, _, -, h⟩ := h
      cases h
    · rename_i hselection
      simp only [bind_ok, pure_ok, throwIf_ok, not_or, not_not] at h
      obtain ⟨_, ⟨hstate, -⟩, n, hn, h⟩ := h
      obtain ⟨rfl, hok⟩ := checkRequest_ok.mp hn
      cases h
      exact .confirm hconfirms hget hprior (by simpa using hheld) hselection hstate hok

theorem quarantineAuthority_change {revision : Int} {reason : Text} :
    Change scope a (a.after (a.quarantineAuthority input revision reason)) := by
  refine after_change fun next result h => ?_
  simp only [quarantineAuthority, bind_ok] at h
  obtain ⟨⟨r, target⟩, hexact, _, -, _, -, h⟩ := h
  have hr := (exactRequest_ok hexact).1
  split at h
  · rename_i hstate
    split at h
    · cases h
    · simp only [bind_ok, pure_ok] at h
      obtain ⟨_, -, h⟩ := h
      exact store_change hr (.quarantine (Or.inl hstate)) h
  · simp only [bind_ok, pure_ok, throwIf_ok] at h
    obtain ⟨_, hstate, h⟩ := h
    refine store_change hr (.quarantine (Or.inr ?_)) h
    tauto

/-! ## Funding -/

theorem authorizeFundingTicket_change {terms : TicketTerms} :
    Change scope a (a.after (a.authorizeFundingTicket input attemptId terms)) := by
  refine after_change fun next result h => ?_
  simp only [authorizeFundingTicket, bind_ok] at h
  obtain ⟨⟨r, target⟩, hexact, _, -, _, -, _, -, h⟩ := h
  split at h <;> simp only [bind_ok, pure_ok, throwIf_ok, not_not] at h
  · obtain ⟨_, -, h⟩ := h
    cases h
  · obtain ⟨_, hstate, _, -, _, -, h⟩ := h
    exact store_change (exactRequest_ok hexact).1 (.ticket hstate) h

theorem persistFundingTicket_change (hpersists : scope.persists) :
    Change scope a (a.after (a.persistFundingTicket input attemptId terms)) := by
  refine after_change fun next result h => ?_
  simp only [persistFundingTicket, bind_ok, throwIf_ok, not_or] at h
  obtain ⟨⟨r, target⟩, hexact, _, -, _, -, _, ⟨hstate, -⟩, _, -, _, -, h⟩ := h
  split at h <;> simp only [bind_ok, pure_ok] at h
  · obtain ⟨_, -, h⟩ := h
    cases h
  · exact store_change (exactRequest_ok hexact).1 (.ticketReady hpersists (by simpa using hstate)) h

theorem prepareFunding_change :
    Change scope a (a.after (a.prepareFunding input attemptId terms)) := by
  refine after_change fun next result h => ?_
  simp only [prepareFunding, bind_ok, throwIf_ok] at h
  obtain ⟨⟨r, target⟩, hexact, _, -, _, -, _, -, _, -, _, hstate, h⟩ := h
  split at h
  · cases h
  · simp only [bind_ok] at h
    obtain ⟨_, -, _, -, h⟩ := h
    split at h <;> simp only [bind_ok, pure_ok] at h
    · obtain ⟨_, -, _, -, h⟩ := h
      cases h
    · refine store_change (exactRequest_ok hexact).1 (.prepareFunding ?_) h
      tauto

theorem markFundingUnknown_change :
    Change scope a (a.after (a.markFundingUnknown input attemptId)) := by
  refine after_change fun next result h => ?_
  simp only [markFundingUnknown, bind_ok, throwIf_ok, not_or] at h
  obtain ⟨⟨r, target⟩, hexact, _, -, _, -, _, ⟨-, hstate⟩, h⟩ := h
  split at h
  · cases h
  · simp only [bind_ok, pure_ok] at h
    exact store_change (exactRequest_ok hexact).1 (.fundingUnknown (by simpa using hstate)) h

theorem closeFunding_change {result : Request} {id : Text}
    (hr : a.requests.get? r.intentDigest = some r)
    (hstate : r.state.isReleasing = true ∨ r.state = .released ∨ r.state = .selected)
    (h : a.closeFunding r id terms = .ok (.stored next result)) : Change scope a next := by
  simp only [closeFunding, bind_ok, pure_ok] at h
  exact store_change hr (.close hstate) h

theorem abandonFunding_change :
    Change scope a (a.after (a.abandonFunding input attemptId terms)) := by
  refine after_change fun next result h => ?_
  simp only [abandonFunding, bind_ok] at h
  obtain ⟨⟨r, target⟩, hexact, _, -, _, -, _, -, h⟩ := h
  have hr := (exactRequest_ok hexact).1
  split at h
  · rename_i hready
    simp only [bind_ok, pure_ok] at h
    exact store_change hr (.abandonTicket hready) h
  split at h
  · rename_i hreleasing
    simp only [bind_ok] at h
    obtain ⟨_, -, _, -, h⟩ := h
    split at h
    · cases h
    · exact closeFunding_change hr (by tauto) h
  split at h
  · rename_i hselected
    split at h
    · simp only [bind_ok, pure_ok] at h
      obtain ⟨_, -, _, -, h⟩ := h
      cases h
    · exact closeFunding_change hr (Or.inr (Or.inr hselected)) h
  · simp only [bind_ok, pure_ok, throwIf_ok, not_or, not_not] at h
    obtain ⟨_, ⟨hpending, -⟩, _, -, h⟩ := h
    exact store_change hr (.abandonFunding hpending) h

/-! ## Deals -/

theorem claimDeal_ok {d : Deal} {conflict : String} {claimed : Authority}
    (h : a.claimDeal d conflict = .ok claimed) :
    claimed = a.putDeal d ∧ ∀ prior ∈ a.deals.get? d.dealId, prior = d := by
  unfold claimDeal at h
  split at h
  · rename_i prior hprior
    split at h
    · rename_i hsame
      cases h
      subst hsame
      refine ⟨?_, fun other hother => ?_⟩
      · rw [putDeal, Table.put_eq_self (Table.get?_eq_some.mp hprior).1]
      · rw [hprior] at hother
        exact (Option.some.inj hother).symm
    · cases h
  · rename_i hnone
    cases h
    refine ⟨rfl, fun other hother => ?_⟩
    rw [hnone] at hother
    cases hother

theorem observeFunded_change : Change scope a (a.after (a.observeFunded input attemptId)) := by
  refine after_change fun next result h => ?_
  simp only [observeFunded, bind_ok, throwIf_ok] at h
  obtain ⟨⟨r, target⟩, hexact, _, -, _, hstate, h⟩ := h
  have hfund : ∃ claimed, a.claimDeal target boundElsewhere = .ok claimed ∧
      ∃ n, checkRequest { r with state := .funded } = .ok n ∧
        Outcome.stored next result = .stored (claimed.putRequest n) target := by
    split at h <;> simp only [bind_ok, pure_ok] at h
    · obtain ⟨_, -, _, -, h⟩ := h
      exact h
    · exact h
  obtain ⟨hr, hdeal, hselection⟩ := exactRequest_ok hexact
  obtain ⟨claimed, hclaim, n, hn, h⟩ := hfund
  obtain ⟨rfl, hfree⟩ := claimDeal_ok hclaim
  obtain ⟨rfl, hok⟩ := checkRequest_ok.mp hn
  cases h
  refine .fund hr (Or.inl ⟨rfl, ?_⟩) hdeal hselection hfree hok
  simp only [not_and, not_not] at hstate
  by_cases hfunding : r.state.isFunding = true
  · exact Or.inl hfunding
  · exact Or.inr (hstate (Bool.eq_false_of_not_eq_true hfunding))

theorem bindDeal_change : Change scope a (a.after (a.bindDeal input)) := by
  refine after_change fun next result h => ?_
  simp only [bindDeal, bind_ok, throwIf_ok] at h
  obtain ⟨⟨r, target⟩, hexact, _, hstate, claimed, hclaim, h⟩ := h
  obtain ⟨hr, hdeal, hselection⟩ := exactRequest_ok hexact
  obtain ⟨rfl, hfree⟩ := claimDeal_ok hclaim
  split at h
  · cases h
  · cases h
    exact .bind hr (RequestState.isFunded_of_bound hstate) hdeal hselection hfree

theorem terminalize_change {outcome : TerminalOutcome}
    (hfill : ∀ c ∈ (Operation.terminalize input outcome).fills a, scope.fillable c) :
    Change scope a (a.after (a.terminalize input outcome)) := by
  refine after_change fun next result h => ?_
  simp only [terminalize, bind_ok, throwIf_ok] at h
  obtain ⟨⟨r, target⟩, hexact, _, -, h⟩ := h
  obtain ⟨hr, hdeal, hselection⟩ := exactRequest_ok hexact
  split at h
  · cases h
  · simp only [bind_ok, pure_ok, throwIf_ok] at h
    obtain ⟨_, hfollows, n, hn, h⟩ := h
    have hfollows : outcome.follows r.state = true := by simpa using hfollows
    have hmove : Change scope a (a.putRequest n) :=
      store_change hr (.terminal hfollows) ⟨n, hn, rfl⟩
    cases h
    unfold consume
    split
    · rename_i c hc
      split
      · rename_i hfilled
        subst hfilled
        obtain ⟨rfl, hok⟩ := checkRequest_ok.mp hn
        have hfunded := TerminalOutcome.follows_filled hfollows
        have hfillable : scope.fillable c := by
          apply hfill
          simp only [Operation.fills, hexact, if_pos hfunded, hc, Option.mem_def]
        have hintent : target.binding.intentDigest = r.intentDigest := by rw [hdeal]; rfl
        rw [hintent] at hc
        exact .fill hr hfunded hselection hc hfillable hok
      · exact hmove
    · exact hmove

/-! ## The release lease -/

theorem acquireReleaseLease_change {input : Binding} :
    Change scope a (a.after (a.acquireReleaseLease input leaseId stamp)) := by
  refine after_change fun next result h => ?_
  simp only [acquireReleaseLease, bind_ok] at h
  obtain ⟨binding, hbinding, lease, hlease, h⟩ := h
  split at h
  · rename_i hnone
    simp only [bind_ok, pure_ok, throwIf_ok] at h
    obtain ⟨_, -, _, hrfq, _, -, n, hn, h⟩ := h
    obtain ⟨rfl, hok⟩ := checkRequest_ok.mp hn
    cases h
    refine .begins hnone (Bool.eq_false_of_not_eq_true hrfq) (Or.inr ⟨rfl, rfl⟩) (fun id hid => ?_)
      rfl ⟨_, hbinding⟩ hok
    cases hid
    exact ⟨rfl, _, hlease⟩
  · rename_i r hget
    simp only [bind_ok, throwIf_ok, not_not] at h
    obtain ⟨_, hsame, h⟩ := h
    have hr : a.requests.get? r.intentDigest = some r := by
      rw [Request.intentDigest, hsame, hget]
    split at h
    · simp only [bind_ok, pure_ok] at h
      obtain ⟨_, -, h⟩ := h
      cases h
    split at h
    · cases h
    · simp only [bind_ok, pure_ok, throwIf_ok] at h
      obtain ⟨_, hstate, _, hdeal, h⟩ := h
      refine store_change hr (.lease ⟨_, hlease⟩ (by tauto) fun d hd hintent => hdeal ?_) h
      rw [List.any_eq_true]
      refine ⟨d, hd, decide_eq_true ?_⟩
      rw [hintent, Request.intentDigest, hsame]

theorem observeFundedDuringRelease_change {input : Binding} :
    Change scope a (a.after (a.observeFundedDuringRelease input leaseId)) := by
  refine after_change fun next result h => ?_
  simp only [observeFundedDuringRelease, bind_ok, throwIf_ok, not_or, not_not] at h
  obtain ⟨binding, -, lease, -, r, hget, _, hbinding, _, ⟨hstate, -⟩, h⟩ := h
  have hr := (requestOf_ok hget).2
  subst hbinding
  split at h
  · cases h
  · rename_i selection hselection
    simp only [bind_ok, pure_ok] at h
    obtain ⟨claimed, hclaim, n, hn, h⟩ := h
    obtain ⟨rfl, hfree⟩ := claimDeal_ok hclaim
    obtain ⟨rfl, hok⟩ := checkRequest_ok.mp hn
    cases h
    exact .fund hr (Or.inr ⟨rfl, hstate⟩) rfl hselection hfree hok

/-! ## Operations in one part -/

theorem setPlan_planOf {plans : List MakerPlan} {makerId : Text} {state : PlanState}
    (h : (planOf plans makerId).isSome = true) :
    (planOf (setPlan plans makerId state) makerId).map MakerPlan.state = some state := by
  induction plans with
  | nil => cases h
  | cons plan plans ih =>
    by_cases hplan : plan.makerId = makerId
    · simp [setPlan, planOf, hplan]
    · have hrest : (planOf plans makerId).isSome = true := by
        simpa [planOf, hplan] using h
      simpa [setPlan, planOf, hplan] using ih hrest

theorem apply_change {operation : Operation} (hlimits : scope.limits = config.limits)
    (hpermits : scope.Permits a operation) : Change scope a (a.apply config operation) := by
  cases operation with
  | beginRequest input => exact beginRequest_change
  | markFanoutRefused intentDigest makerId => exact markFanoutRefused_change
  | completeRequestFanout intentDigest => exact completeRequestFanout_change
  | beginSelection intentDigest input => exact beginSelection_change
  | confirmSelection intentDigest input => exact confirmSelection_change (hpermits.confirms trivial)
  | quarantineAuthority input revision reason => exact quarantineAuthority_change
  | authorizeFundingTicket input attemptId terms => exact authorizeFundingTicket_change
  | persistFundingTicket input attemptId terms =>
    exact persistFundingTicket_change (hpermits.persists trivial)
  | prepareFunding input attemptId terms => exact prepareFunding_change
  | markFundingUnknown input attemptId => exact markFundingUnknown_change
  | resolveFundingReverted => exact .same rfl rfl rfl (.same rfl)
  | abandonFunding input attemptId terms => exact abandonFunding_change
  | observeFunded input attemptId => exact observeFunded_change
  | bindDeal input => exact bindDeal_change
  | acquireReleaseLease input leaseId stamp => exact acquireReleaseLease_change
  | observeFundedDuringRelease input leaseId => exact observeFundedDuringRelease_change
  | terminalize input outcome => exact terminalize_change hpermits.fills
  | v3 operation =>
    refine after_change fun next result h => ?_
    obtain ⟨hrecords, hrequests, hdeals⟩ := (applyV3_ok h).same
    exact .same hrecords hrequests hdeals
      (.change (hpermits.takes operation rfl) (hlimits ▸ applyV3_ok h))

theorem expireV3Requests_same (h : a.expireV3Requests stamp = .ok b) :
    b.records = a.records ∧ b.requests = a.requests ∧ b.deals = a.deals := by
  simp only [expireV3Requests, bind_ok, pure_ok] at h
  obtain ⟨_, -, rfl⟩ := h
  exact ⟨rfl, rfl, rfl⟩

theorem enter_same (h : a.enter clock = .ok b) :
    b.records = a.records ∧ b.requests = a.requests ∧ b.deals = a.deals := by
  simp only [enter, bind_ok] at h
  obtain ⟨stamp, -, h⟩ := h
  exact expireV3Requests_same h

theorem enter_change (h : a.enter clock = .ok b) : Change scope a b := by
  obtain ⟨hrecords, hrequests, hdeals⟩ := enter_same h
  simp only [enter, bind_ok] at h
  obtain ⟨stamp, -, h⟩ := h
  exact .same hrecords hrequests hdeals (.expire h)

theorem enter_fills {operation : Operation} (h : a.enter clock = .ok b) :
    operation.fills b = operation.fills a := by
  obtain ⟨hrecords, hrequests, -⟩ := enter_same h
  cases operation with
  | terminalize input outcome =>
    cases outcome <;> simp only [Operation.fills, exactRequest, hrecords, hrequests]
  | _ => rfl

/-! ## Registration -/

theorem registerPlan_ok {planned : Outcome Request} (h : a.registerPlan record = .ok planned) :
    Change scope a (a.after (.ok planned)) ∧
      (a.after (.ok planned)).requests.get? record.key.intentDigest = some planned.result ∧
      (planned.result.makerPlans = [] ∨
        (planOf planned.result.makerPlans record.key.pending.makerId).map MakerPlan.state =
          some .responded) := by
  simp only [registerPlan, bind_ok, throwIf_ok, not_and] at h
  obtain ⟨r, hget, _, hplanned, h⟩ := h
  obtain ⟨hdigest, hr⟩ := requestOf_ok hget
  split at h
  · rename_i hresponded
    cases h
    exact ⟨.same rfl rfl rfl (.same rfl), hdigest ▸ hr, Or.inr hresponded⟩
  · simp only [bind_ok, pure_ok] at h
    obtain ⟨n, hn, rfl⟩ := h
    obtain ⟨rfl, hok⟩ := checkRequest_ok.mp hn
    refine ⟨.request hr .respond hok, ?_, ?_⟩
    · rw [← hdigest]
      exact Table.get?_put_self
    · by_cases hplans : r.makerPlans = []
      · refine Or.inl ?_
        simp [Outcome.result, hplans, setPlan]
      · exact Or.inr (setPlan_planOf (Option.isSome_iff_ne_none.mpr (hplanned hplans)))

theorem registerRecord_change (hr : a.requests.get? record.key.intentDigest = some r)
    (hplan : r.makerPlans = [] ∨
      (planOf r.makerPlans record.key.pending.makerId).map MakerPlan.state = some .responded)
    (hstate : record.state = .reserved) (hauthorization : record.authorization = none) :
    Change scope a (a.after (a.registerRecord r record)) := by
  refine after_change fun next result h => ?_
  unfold registerRecord at h
  split at h
  · simp only [bind_ok, pure_ok] at h
    obtain ⟨_, -, h⟩ := h
    cases h
  · rename_i hnew
    split at h
    · rename_i hclosed
      cases h
      refine .record (.register hnew hr hplan ?_ hauthorization)
      rw [if_neg hclosed]
    · rename_i hopened
      cases h
      refine .record (.register hnew hr hplan ?_ hauthorization)
      rw [if_pos (not_not.mp hopened), hstate]

theorem validateRecord_ok {input : RecordInput} (h : validateRecord input = .ok record) :
    record.state = .reserved ∧ record.authorization = none := by
  simp only [validateRecord, bind_ok, pure_ok] at h
  obtain ⟨_, -, _, -, _, -, rfl⟩ := h
  exact ⟨rfl, rfl⟩

theorem register_changes {input : RecordInput} :
    ReflTransGen (Change scope) a (a.register input).2 := by
  unfold register
  split
  · exact .refl
  · rename_i record hrecord
    obtain ⟨hstate, hauthorization⟩ := validateRecord_ok hrecord
    split
    · exact .refl
    · rename_i planned hplanned
      obtain ⟨hfirst, hr, hplan⟩ := registerPlan_ok hplanned
      have hsecond : Change scope (a.after (.ok planned)) ((a.after (.ok planned)).after
            ((a.after (.ok planned)).registerRecord planned.result record)) :=
        registerRecord_change hr hplan hstate hauthorization
      dsimp only
      split
      · exact .single hfirst
      · rename_i registered hregistered
        rw [hregistered] at hsecond
        exact .tail (.single hfirst) hsecond

/-! ## Releases -/

theorem pendingRecord_eq_some {c : Record} :
    a.pendingRecord key = some c ↔ a.records.get? key = some c ∧ c.state.isFinal = false := by
  simp [pendingRecord, Option.filter_eq_some_iff]

theorem pendingRecord_key {c : Record} (h : a.pendingRecord key = some c) :
    c.key = key ∧ a.records.get? c.key = some c ∧ c.state.isFinal = false := by
  obtain ⟨hget, hpending⟩ := pendingRecord_eq_some.mp h
  have hkey := (Table.get?_eq_some.mp hget).2
  exact ⟨hkey, hkey.symm ▸ hget, hpending⟩

theorem markRelease_change (hkey : scope.releasable key) :
    Change scope a (a.after (.ok (a.markRelease key now))) := by
  unfold markRelease
  split
  · exact .same rfl rfl rfl (.same rfl)
  · rename_i c hc
    obtain ⟨rfl, hget, hpending⟩ := pendingRecord_key hc
    split
    · exact .record (.release hget hpending hkey (Or.inl rfl))
    · exact .record (.release hget hpending hkey (Or.inr (Or.inl rfl)))

theorem finishRelease_change {released : Bool} (hkey : scope.releasable key) :
    Change scope a (a.after (.ok (a.finishRelease key released))) := by
  unfold finishRelease
  split
  · exact .same rfl rfl rfl (.same rfl)
  · rename_i c hc
    obtain ⟨rfl, hget, hpending⟩ := pendingRecord_key hc
    split
    · exact .same rfl rfl rfl (.same rfl)
    · exact .record (.release hget hpending hkey (Or.inr (Or.inr rfl)))

theorem lateRegistration_change : Change scope a (a.after (a.lateRegistration key)) := by
  refine after_change fun next result h => ?_
  unfold lateRegistration at h
  split at h
  · rename_i current r hcurrent hget
    have hr : a.requests.get? r.intentDigest = some r :=
      Table.get?_mem (Table.get?_eq_some.mp hget).1
    split at h
    · cases h
    · simp only [bind_ok, throwIf_ok] at h
      obtain ⟨_, hstate, h⟩ := h
      split at h
      · cases h
      · simp only [bind_ok, pure_ok] at h
        obtain ⟨n, hn, h⟩ := h
        obtain ⟨rfl, hok⟩ := checkRequest_ok.mp hn
        cases h
        refine .request hr (.late ?_) hok
        simpa [or_iff_not_imp_left] using hstate
  · cases h

theorem prepareReleaseIntent_change {input : Binding} :
    Change scope a (a.after (a.prepareReleaseIntent input leaseId now)) := by
  refine after_change fun next result h => ?_
  simp only [prepareReleaseIntent, bind_ok] at h
  obtain ⟨stamp, -, binding, -, lease, -, r, hget, _, -, h⟩ := h
  have hr := (requestOf_ok hget).2
  split at h
  · cases h
  · simp only [bind_ok, pure_ok, throwIf_ok, not_or] at h
    obtain ⟨_, ⟨hstate, -⟩, n, hn, h⟩ := h
    obtain ⟨rfl, hok⟩ := checkRequest_ok.mp hn
    cases h
    refine .request hr (.prepareRelease (by simpa using hstate) ?_) hok
    split
    · exact Or.inr rfl
    · exact Or.inl rfl

theorem completeReleaseIntent_change {binding : Binding} :
    Change scope a (a.after (a.completeReleaseIntent binding leaseId)) := by
  refine after_change fun next result h => ?_
  simp only [completeReleaseIntent, bind_ok, throwIf_ok, not_not] at h
  obtain ⟨r, hget, _, hbinding, h⟩ := h
  have hr := (requestOf_ok hget).2
  subst hbinding
  split at h
  · cases h
  · simp only [bind_ok, throwIf_ok, not_or, not_not] at h
    obtain ⟨_, ⟨hstate, -⟩, h⟩ := h
    split at h
    · rename_i hdone
      simp only [bind_ok, pure_ok] at h
      obtain ⟨n, hn, h⟩ := h
      obtain ⟨rfl, hok⟩ := checkRequest_ok.mp hn
      cases h
      exact .request hr (.released hstate hdone.1 hdone.2) hok
    · cases h

/-! ## Recovery -/

theorem recoverRequest_ok (h : a.recoverRequest stamp r = .ok r') :
    ∃ completed, (completed = r ∨ checkRequest (Authority.expirePlans r) = .ok completed) ∧
      (r' = completed ∨ checkRequest { completed with state := .released } = .ok r' ∧
        completed.state = .releasePending ∧ completed.fanoutComplete = true ∧
          a.unresolved completed.intentDigest = []) := by
  unfold recoverRequest at h
  split at h <;> simp only [bind_ok] at h <;> obtain ⟨completed, hcompleted, h⟩ := h
  · refine ⟨completed, Or.inr hcompleted, ?_⟩
    split at h
    · rename_i hrelease
      exact Or.inr ⟨h, hrelease⟩
    · exact Or.inl (pure_ok.mp h)
  · refine ⟨completed, Or.inl (pure_ok.mp hcompleted), ?_⟩
    split at h
    · rename_i hrelease
      exact Or.inr ⟨h, hrelease⟩
    · exact Or.inl (pure_ok.mp h)

theorem recoverRequest_key (h : a.recoverRequest stamp r = .ok r') :
    r'.intentDigest = r.intentDigest := by
  obtain ⟨completed, hcompleted, hreleased⟩ := recoverRequest_ok h
  have hfirst : completed.intentDigest = r.intentDigest := by
    rcases hcompleted with rfl | hcompleted
    · rfl
    · rw [(checkRequest_ok.mp hcompleted).1]
      rfl
  rcases hreleased with rfl | ⟨hreleased, -⟩
  · exact hfirst
  · rw [(checkRequest_ok.mp hreleased).1]
    exact hfirst

theorem putRequest_putRequest (h : r'.intentDigest = r.intentDigest) :
    (a.putRequest r).putRequest r' = a.putRequest r' := by
  simp only [putRequest, Table.put_put h]

theorem recoverRequest_changes (hr : a.requests.get? r.intentDigest = some r)
    (h : a.recoverRequest stamp r = .ok r') : ReflTransGen (Change scope) a (a.putRequest r') := by
  obtain ⟨completed, hcompleted, hreleased⟩ := recoverRequest_ok h
  have hfirst : ReflTransGen (Change scope) a (a.putRequest completed) := by
    rcases hcompleted with rfl | hcompleted
    · rw [putRequest, Table.put_eq_self (Table.get?_eq_some.mp hr).1]
    · obtain ⟨rfl, hok⟩ := checkRequest_ok.mp hcompleted
      exact .single (.request hr .expirePlans hok)
  rcases hreleased with rfl | ⟨hreleased, hstate, hfanout, hresolved⟩
  · exact hfirst
  · obtain ⟨rfl, hok⟩ := checkRequest_ok.mp hreleased
    have hget : (a.putRequest completed).requests.get? completed.intentDigest = some completed :=
      Table.get?_put_self
    have hput : (a.putRequest completed).putRequest { completed with state := .released } =
        a.putRequest { completed with state := .released } := putRequest_putRequest rfl
    exact hput ▸ .tail hfirst (.request hget (.released hstate hfanout hresolved) hok)

theorem recoverRequests_changes (h : a.recoverRequests stamp = .ok next) :
    ReflTransGen (Change scope) a next := by
  simp only [recoverRequests, bind_ok, pure_ok] at h
  obtain ⟨requests, hrequests, rfl⟩ := h
  refine Table.mapM_invariant
    (I := fun requests => ReflTransGen (Change scope) a { a with requests })
    (fun _ _ => recoverRequest_key) (fun requests r r' hr hr' hI => ?_) hrequests .refl
  -- the other requests have no part in the recovery of one
  have hsame : ({ a with requests } : Authority).recoverRequest stamp r = .ok r' := hr'
  exact .trans hI (recoverRequest_changes hr hsame)

end Authority

namespace System

variable {s : System} {a : Authority} {config : Config} {scope : Scope}

/-! ## Steps of the system -/

theorem complete_changes : ReflTransGen (Change scope) a (complete a t).1 := by
  have hoption {α : Type} {res : Except String (Outcome α)} {outcome : Outcome α}
      (hres : res = .ok outcome) (h : Change scope a (a.after res)) :
      ReflTransGen (Change scope) a (a.after (.ok outcome)) := .single (hres ▸ h)
  unfold complete
  split
  · split
    · rename_i hlate
      exact hoption hlate Authority.lateRegistration_change
    · exact .refl
  · exact .refl
  · split
    · rename_i hcomplete
      exact hoption hcomplete Authority.completeReleaseIntent_change
    · exact .refl
  · split <;> exact .refl
  · split
    · rename_i recovered hrecovered
      have hrecover : ReflTransGen (Change scope) a recovered :=
        Authority.recoverRequests_changes hrecovered
      split
      · rename_i expired hexpired
        obtain ⟨hrecords, hrequests, hdeals⟩ := Authority.expireV3Requests_same hexpired
        exact .tail hrecover (.same hrecords hrequests hdeals (.expire hexpired))
      · exact hrecover
    · exact .refl

theorem serialized_changes (hkey : ∀ key, t.phase.active = some key → scope.releasable key) :
    ReflTransGen (Change scope) a (serialized a t).1 := by
  unfold serialized
  split
  · exact .refl
  · rename_i key rest hphase
    exact .single (Authority.markRelease_change (hkey key (by rw [hphase]; rfl)))
  · rename_i key released rest hphase
    exact .single (Authority.finishRelease_change (hkey key (by rw [hphase]; rfl)))
  · exact complete_changes
  · exact .refl

theorem advance_changes {answer : Answer}
    (hkey : ∀ key, t.phase.active = some key → scope.releasable key) :
    ReflTransGen (Change scope) s.authority (s.advance t answer clock).1 := by
  unfold advance
  split
  · exact .refl
  · exact .refl
  · exact .refl
  · exact .refl
  · split
    · exact .refl
    · rename_i b hb
      exact .trans (.single (Authority.enter_change hb)) (serialized_changes hkey)

theorem begin_changes {f : Authority → System}
    (h : ∀ b, s.authority.enter clock = .ok b → ReflTransGen (Change scope) b (f b).authority) :
    ReflTransGen (Change scope) s.authority (s.begin clock f).authority := by
  unfold begin
  split
  · exact .refl
  · rename_i b hb
    exact .trans (.single (Authority.enter_change hb)) (h b hb)

theorem startRegister_changes {input : RecordInput} :
    ReflTransGen (Change scope) a (s.startRegister a input now).authority := by
  have h : ReflTransGen (Change scope) a (a.register input).2 := Authority.register_changes
  unfold startRegister
  split
  · rename_i registration next hnext
    rw [hnext] at h
    split
    · split <;> exact h
    · exact h
  · rename_i reason next hnext
    rw [hnext] at h
    exact h

theorem startIntent_changes {input : Binding} :
    ReflTransGen (Change scope) a (s.startIntent a input leaseId now).authority := by
  have h : Change scope a (a.after (a.prepareReleaseIntent input leaseId now)) :=
    Authority.prepareReleaseIntent_change
  unfold startIntent
  split
  · rename_i outcome houtcome
    rw [houtcome] at h
    split <;> exact .single h
  · exact .refl

theorem step_changes {st : Step} (hlimits : scope.limits = config.limits)
    (hpermitted : st.Permitted scope s.authority)
    (hkey : ∀ key, s.Active key → scope.releasable key) :
    ReflTransGen (Change scope) s.authority (s.step config st).authority := by
  cases st with
  | operation operation clock =>
    refine begin_changes fun b hb => .single (Authority.apply_change hlimits ⟨fun c hc => ?_,
      hpermitted.confirms, hpermitted.persists, hpermitted.takes⟩)
    rw [Authority.enter_fills hb] at hc
    exact hpermitted.fills c hc
  | register input clock now => exact begin_changes fun b _ => startRegister_changes
  | releaseLosers intentDigest now clock =>
    refine begin_changes fun b _ => ?_
    unfold startLosers
    split <;> exact .refl
  | releaseIntent input leaseId now clock => exact begin_changes fun b _ => startIntent_changes
  | releaseSelected input now clock =>
    refine begin_changes fun b _ => ?_
    unfold startSelected
    split <;> exact .refl
  | recover now clock =>
    refine begin_changes fun b _ => ?_
    unfold startRecovery
    split <;> exact .refl
  | advance task answer clock =>
    simp only [step]
    split
    · exact .refl
    · rename_i t ht
      exact advance_changes fun key hactive => hkey key ⟨t, List.mem_of_getElem? ht, hactive⟩

/-- Every step, whoever asks for it, makes changes only. -/
theorem any_changes (s : System) (config : Config) (st : Step) :
    ReflTransGen (Change (anyScope config.limits)) s.authority (s.step config st).authority := by
  apply step_changes rfl
  · exact Step.permitted (fun _ _ => trivial) trivial trivial fun _ => trivial
  · exact fun _ _ => trivial

end System

end App20.Coordinator
