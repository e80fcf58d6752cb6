import App20.Coordinator.Changes

/-!
# The invariant of the coordinator

What holds of the requests, records and deals in every state that the coordinator reaches. A record names
a stored request and a maker that responded, a selection names a record that it matches, and a deal belongs
to a request that was funded.

* `Authority.Sound.change`: a change keeps the invariant.
* `Move.isFunded_eq`: only the fund of a request makes it funded, and nothing undoes it.
-/

namespace App20.Coordinator

open App20.Lib App20.Domain
open Table (get?_eq_some get?_mem mem_put get?_put_self get?_put_of_ne)

/-! ## One request -/

/-- A maker has responded, unless the makers are not known. -/
def Responded (plans : List MakerPlan) (makerId : Text) : Prop :=
  plans = [] ∨ (Authority.planOf plans makerId).map MakerPlan.state = some .responded

/-- What holds of a stored request. -/
structure Request.Sound (r : Request) : Prop where
  consistent : r.Consistent
  unselected : r.state = .opened → r.selection = none
  leased : r.releaseLeaseId.isSome = true → r.state.isReleasing = true ∨ r.state = .released

theorem Request.Sound.unleased {r : Request} (h : r.Sound) (hfunded : r.state.isFunded = true) :
    r.releaseLeaseId = none := by
  cases hlease : r.releaseLeaseId with
  | none => rfl
  | some id =>
    have hleased := h.leased (by rw [hlease]; rfl)
    cases hs : r.state <;> simp_all [RequestState.isFunded, RequestState.isReleasing]

theorem Request.Sound.not_leased {r : Request} (h : r.Sound)
    (hstate : r.state.isReleasing = false ∧ r.state ≠ .released) :
    ¬ r.releaseLeaseId.isSome = true := by
  intro hlease
  rcases h.leased hlease with hreleasing | hreleased
  · rw [hstate.1] at hreleasing
    cases hreleasing
  · exact hstate.2 hreleased

theorem RequestState.not_releasing_of_funding {state : RequestState}
    (h : state.isFunding = true ∨ state = .funded) :
    state.isReleasing = false ∧ state ≠ .released := by
  rcases h with h | rfl
  · cases state <;> simp_all [isFunding, isReleasing]
  · simp [isReleasing]

theorem Request.Sound.isSome_selection {r : Request} (h : r.Sound)
    (hfunded : r.state.isFunded = true) : r.selection.isSome = true := by
  apply h.consistent.selection
  cases hs : r.state <;> simp_all [RequestState.isFunded, RequestState.needsSelection]

/-! ## Plans of makers -/

section Plans

variable {plans : List MakerPlan} {makerId other : Text}

theorem planOf_map {f : MakerPlan → MakerPlan} (hf : ∀ plan, (f plan).makerId = plan.makerId) :
    Authority.planOf (plans.map f) makerId = (Authority.planOf plans makerId).map f := by
  simp only [Authority.planOf, List.find?_map, Function.comp_def, hf]

theorem makerId_of_planOf {plan : MakerPlan} (h : Authority.planOf plans makerId = some plan) :
    plan.makerId = makerId := by
  simpa using List.find?_some h

theorem Responded.setPlan {state : PlanState} (h : Responded plans makerId)
    (hstate : state = .responded ∨ ∀ plan ∈ Authority.planOf plans other, plan.state ≠ .responded) :
    Responded (Authority.setPlan plans other state) makerId := by
  rcases h with rfl | h
  · exact Or.inl rfl
  · refine Or.inr ?_
    obtain ⟨plan, hplan, hresponded⟩ := Option.map_eq_some_iff.mp h
    have hmaker := makerId_of_planOf hplan
    rw [Authority.setPlan, planOf_map fun entry => by split <;> rfl, hplan]
    simp only [Option.map_some, hmaker]
    split
    · rename_i hsame
      rcases hstate with rfl | hother
      · rfl
      · exact absurd hresponded (hother plan (hsame ▸ hplan))
    · rw [hresponded]

theorem Responded.expirePlans {r : Request} (h : Responded r.makerPlans makerId) :
    Responded (Authority.expirePlans r).makerPlans makerId := by
  rcases h with h | h
  · refine Or.inl ?_
    simp [Authority.expirePlans, h]
  · refine Or.inr ?_
    obtain ⟨plan, hplan, hresponded⟩ := Option.map_eq_some_iff.mp h
    simp only [Authority.expirePlans]
    rw [planOf_map fun entry => by split <;> rfl, hplan]
    simp [hresponded]

theorem Responded.not_refused (h : Responded plans makerId) (hplans : plans ≠ []) :
    ¬ ∀ plan ∈ plans, plan.state = .refused := by
  intro hrefused
  obtain ⟨plan, hplan, hresponded⟩ := Option.map_eq_some_iff.mp (h.resolve_left hplans)
  rw [hrefused plan (List.mem_of_find?_eq_some hplan)] at hresponded
  cases hresponded

end Plans

/-! ## Moves -/

section Moves

variable {scope : Scope} {a : Authority} {r r' : Request}

/-- A move changes neither the principal of a request nor its selection. -/
theorem Move.keeps (h : Move scope a r r') :
    r'.binding = r.binding ∧ r'.selection = r.selection ∧ r'.market = r.market := by
  cases h with
  | prepareRelease hstate hcompleted =>
    rcases hcompleted with rfl | rfl <;> exact ⟨rfl, rfl, rfl⟩
  | _ => exact ⟨rfl, rfl, rfl⟩

theorem Move.key (h : Move scope a r r') : r'.intentDigest = r.intentDigest := by
  rw [Request.intentDigest, h.keeps.1, Request.intentDigest]

theorem Move.responded {makerId : Text} (h : Move scope a r r') (hr : Responded r.makerPlans makerId) :
    Responded r'.makerPlans makerId := by
  cases h with
  | refuse hplan hstate =>
    refine hr.setPlan (Or.inr fun plan hmem => ?_)
    rw [hplan] at hmem
    cases hmem
    exact hstate
  | respond => exact hr.setPlan (Or.inl rfl)
  | prepareRelease hstate hcompleted =>
    rcases hcompleted with rfl | rfl
    · exact hr
    · exact hr.expirePlans
  | expirePlans => exact hr.expirePlans
  | _ => exact hr

section

variable (h : Move scope a r r')

include h

theorem Move.opened (hstate : r'.state = .opened) : r.state = .opened := by
  cases h with
  | terminal hfollows => rename_i outcome; cases outcome <;> cases hstate
  | _ => first | exact hstate | cases hstate

theorem Move.leased (hr : r.Sound) (hlease : r'.releaseLeaseId.isSome = true) :
    r'.state.isReleasing = true ∨ r'.state = .released := by
  cases h with
  | lease | prepareRelease | late => exact Or.inl rfl
  | completeReleased | released => exact Or.inr rfl
  | terminal hfollows =>
    rcases hr.leased hlease with hreleasing | hreleased <;>
      cases hs : r.state <;> simp_all [RequestState.isReleasing, TerminalOutcome.follows]
  | _ =>
    rcases hr.leased hlease with hreleasing | hreleased <;>
      cases hs : r.state <;> simp_all [RequestState.isReleasing, RequestState.isTicket,
        RequestState.isFunding, Authority.expirePlans]

theorem Move.sound (hr : r.Sound) (hok : r'.Consistent) : r'.Sound where
  consistent := hok
  unselected hopened := h.keeps.2.1.trans (hr.unselected (h.opened hopened))
  leased := h.leased hr

/-- Only funding makes a request funded, and nothing undoes it: a late reservation finds no lease of a
funded request, and a maker that responded keeps a fanout from releasing it. -/
theorem Move.isFunded_eq (hr : r.Sound) (hok : r'.Consistent)
    (hresponded : r.state.isFunded = true → ∃ makerId, Responded r.makerPlans makerId) :
    r'.state.isFunded = r.state.isFunded := by
  cases h with
  | completeReleased hresolved hwhy =>
    rcases hwhy with hpending | ⟨hplans, hrefused⟩
    · simp [hpending, RequestState.isFunded]
    · refine (Bool.eq_false_of_not_eq_true fun hfunded => ?_).symm
      obtain ⟨makerId, hmaker⟩ := hresponded hfunded
      exact hmaker.not_refused hplans hrefused
  | late hstate =>
    refine (Bool.eq_false_of_not_eq_true fun hfunded => ?_).symm
    have hlease := hok.releasing rfl
    rw [show _ = none from hr.unleased hfunded] at hlease
    cases hlease
  | terminal hfollows =>
    rename_i outcome
    cases outcome <;> cases hs : r.state <;>
      simp_all [TerminalOutcome.follows, TerminalOutcome.state, RequestState.isFunded]
  | quarantine hstate => rcases hstate with h | h | h | h | h <;> simp [h, RequestState.isFunded]
  | ticketReady hpersists hstate | fundingUnknown hstate | prepareRelease hstate hcompleted =>
    cases hs : r.state <;>
      simp_all [RequestState.isTicket, RequestState.isFunding, RequestState.isReleasing,
        RequestState.isFunded]
  | lease hid hstate hdeal => rcases hstate with h | h | h <;> simp [h, RequestState.isFunded]
  | select hselection hstate | ticket hstate | prepareFunding hstate | abandonTicket hstate
  | abandonFunding hstate | released hstate => simp [hstate, RequestState.isFunded]
  | _ => rfl

/-- A request on its way out stays there. -/
theorem Move.isReleased (hr : r.state = .releasePending ∨ r.state = .released) :
    (r'.state = .releasePending ∨ r'.state = .released) ∧ r'.releaseLeaseId = r.releaseLeaseId := by
  cases h with
  | completeReleased | released => exact ⟨Or.inr rfl, rfl⟩
  | late => exact ⟨Or.inl rfl, rfl⟩
  | prepareRelease hstate hcompleted =>
    rcases hcompleted with rfl | rfl <;> exact ⟨Or.inl rfl, rfl⟩
  | refuse | respond | complete | close | expirePlans => exact ⟨hr, rfl⟩
  | terminal hfollows =>
    rcases hr with hr | hr <;> simp [hr, TerminalOutcome.follows] at hfollows
  | _ => rcases hr with hr | hr <;> simp_all [RequestState.isTicket, RequestState.isFunding]

end

end Moves

/-! ## The invariant -/

/-- What holds of requests and records. -/
structure Authority.Bound (a : Authority) : Prop where
  requests : ∀ r ∈ a.requests.entries, r.Sound
  rfqs : ∀ r ∈ a.requests.entries, ∀ r' ∈ a.requests.entries,
    r.binding.rfqId = r'.binding.rfqId → r = r'
  records : ∀ c ∈ a.records.entries, ∃ r, a.requests.get? c.key.intentDigest = some r ∧
    Responded r.makerPlans c.key.pending.makerId
  selected : ∀ r ∈ a.requests.entries, ∀ s ∈ r.selection,
    ∃ c, a.records.get? ⟨r.intentDigest, s.pending⟩ = some c ∧ s.Matches c ∧ c.state ≠ .reserved

/-- What holds of requests and deals. -/
structure Authority.Dealt (a : Authority) : Prop where
  deals : ∀ d ∈ a.deals.entries, ∃ r, a.requests.get? d.binding.intentDigest = some r ∧
    d = ⟨r.binding, r.binding.rfqId, d.selection⟩ ∧ r.selection = some d.selection ∧
    r.state.isFunded = true
  funded : ∀ r ∈ a.requests.entries, r.state.isFunded = true →
    ∃ d, a.deals.get? r.binding.rfqId = some d ∧ d.binding = r.binding

structure Authority.Sound (a : Authority) : Prop extends a.Bound, a.Dealt

namespace Authority

variable {a b : Authority} {r r' : Request} {scope : Scope}

theorem Sound.empty : Authority.empty.Sound where
  requests r hr := by cases hr
  rfqs r hr := by cases hr
  records c hc := by cases hc
  selected r hr := by cases hr
  deals d hd := by cases hd
  funded r hr := by cases hr

/-! ## Requests and records -/

theorem Bound.responded (h : a.Bound) (hr : r ∈ a.requests.entries)
    (hselection : r.selection.isSome = true) : ∃ makerId, Responded r.makerPlans makerId := by
  obtain ⟨s, hs⟩ := Option.isSome_iff_exists.mp hselection
  obtain ⟨c, hc, -, -⟩ := h.selected r hr s hs
  obtain ⟨hmem, hkey⟩ := get?_eq_some.mp hc
  obtain ⟨r', hr', hresponded⟩ := h.records c hmem
  rw [hkey, get?_mem hr] at hr'
  cases hr'
  exact ⟨_, hresponded⟩

theorem Bound.isFunded_eq (h : a.Bound) (hr : r ∈ a.requests.entries) (hmove : Move scope a r r')
    (hok : r'.Consistent) : r'.state.isFunded = r.state.isFunded :=
  hmove.isFunded_eq (h.requests r hr) hok fun hfunded =>
    h.responded hr ((h.requests r hr).isSome_selection hfunded)

theorem Bound.putRequest (h : a.Bound) (hr : a.requests.get? r.intentDigest = some r)
    (hsound : r'.Sound) (hbinding : r'.binding = r.binding)
    (hresponded : ∀ makerId, Responded r.makerPlans makerId → Responded r'.makerPlans makerId)
    (hselected : ∀ s ∈ r'.selection, ∃ c,
      a.records.get? ⟨r.intentDigest, s.pending⟩ = some c ∧ s.Matches c ∧ c.state ≠ .reserved) :
    (a.putRequest r').Bound := by
  have hkey : r'.intentDigest = r.intentDigest := by rw [Request.intentDigest, hbinding]; rfl
  have hmem := (get?_eq_some.mp hr).1
  constructor
  · intro q hq
    rcases mem_put.mp hq with rfl | ⟨hq, -⟩
    · exact hsound
    · exact h.requests q hq
  · intro q hq q' hq' hrfq
    rcases mem_put.mp hq with rfl | ⟨hold, hne⟩ <;>
      rcases mem_put.mp hq' with heq | ⟨hold', hne'⟩
    · exact heq.symm
    · rw [hbinding] at hrfq
      exact absurd (h.rfqs r hmem q' hold' hrfq ▸ hkey.symm) hne'
    · rw [heq, hbinding] at hrfq
      exact absurd (h.rfqs q hold r hmem hrfq ▸ hkey.symm) hne
    · exact h.rfqs q hold q' hold' hrfq
  · intro c hc
    obtain ⟨q, hq, hplans⟩ := h.records c hc
    by_cases hne : c.key.intentDigest = r'.intentDigest
    · rw [hne, hkey, hr] at hq
      cases hq
      exact ⟨r', hne ▸ get?_put_self, hresponded _ hplans⟩
    · exact ⟨q, (get?_put_of_ne hne).trans hq, hplans⟩
  · intro q hq
    rcases mem_put.mp hq with rfl | ⟨hq, -⟩
    · rw [hkey]
      exact hselected
    · exact h.selected q hq

theorem Bound.putRecord (h : a.Bound) {c : Record}
    (hrequest : ∃ r, a.requests.get? c.key.intentDigest = some r ∧
      Responded r.makerPlans c.key.pending.makerId)
    (hselected : ∀ r ∈ a.requests.entries, ∀ s ∈ r.selection,
      c.key = ⟨r.intentDigest, s.pending⟩ → s.Matches c ∧ c.state ≠ .reserved) :
    (a.putRecord c).Bound where
  requests := h.requests
  rfqs := h.rfqs
  records e he := by
    rcases mem_put.mp he with rfl | ⟨he, -⟩
    · exact hrequest
    · exact h.records e he
  selected r hr s hs := by
    by_cases hkey : c.key = ⟨r.intentDigest, s.pending⟩
    · exact ⟨c, hkey ▸ get?_put_self, hselected r hr s hs hkey⟩
    · obtain ⟨e, he, hmatches⟩ := h.selected r hr s hs
      exact ⟨e, (get?_put_of_ne fun heq => hkey heq.symm).trans he, hmatches⟩

theorem Bound.setState (h : a.Bound) {c : Record} {state : RecordState}
    (hc : c ∈ a.records.entries) (hstate : state ≠ .reserved) :
    (a.putRecord { c with state }).Bound := by
  refine h.putRecord (h.records c hc) fun r hr s hs hkey => ?_
  obtain ⟨e, he, hmatches, -⟩ := h.selected r hr s hs
  obtain ⟨hmem, hkey'⟩ := get?_eq_some.mp he
  have hsame : e = c := List.inj_on_of_nodup_map a.records.nodup hmem hc (hkey'.trans hkey.symm)
  subst hsame
  exact ⟨hmatches, hstate⟩

theorem Bound.begins (h : a.Bound) (hnew : a.requests.get? r.intentDigest = none)
    (hrfq : (a.rfqOwner r.binding.rfqId).any (· ≠ r.intentDigest) = false) (hsound : r.Sound)
    (hselection : r.selection = none) : (a.putRequest r).Bound := by
  have hother : ∀ q ∈ a.requests.entries, q.intentDigest ≠ r.intentDigest := by
    intro q hq hkey
    rw [← hkey, get?_mem hq] at hnew
    cases hnew
  have hfresh : ∀ q ∈ a.requests.entries, q.binding.rfqId ≠ r.binding.rfqId := by
    intro q hq hsame
    unfold rfqOwner at hrfq
    cases howner : a.requests.entries.find? fun q => q.binding.rfqId = r.binding.rfqId with
    | none => simpa [hsame] using List.find?_eq_none.mp howner q hq
    | some owner =>
      rw [howner] at hrfq
      exact hother owner (List.mem_of_find?_eq_some howner) (by simpa using hrfq)
  constructor
  · intro q hq
    rcases mem_put.mp hq with rfl | ⟨hq, -⟩
    · exact hsound
    · exact h.requests q hq
  · intro q hq q' hq' hsame
    rcases mem_put.mp hq with rfl | ⟨hold, -⟩ <;>
      rcases mem_put.mp hq' with heq | ⟨hold', -⟩
    · exact heq.symm
    · exact absurd hsame.symm (hfresh q' hold')
    · exact absurd (heq ▸ hsame) (hfresh q hold)
    · exact h.rfqs q hold q' hold' hsame
  · intro c hc
    obtain ⟨q, hq, hplans⟩ := h.records c hc
    refine ⟨q, (get?_put_of_ne fun hkey => ?_).trans hq, hplans⟩
    rw [hkey, hnew] at hq
    cases hq
  · intro q hq s hs
    rcases mem_put.mp hq with rfl | ⟨hq, -⟩
    · rw [hselection] at hs
      cases hs
    · exact h.selected q hq s hs

theorem Bound.change (h : a.Bound) (hchange : Change scope a b) : b.Bound := by
  cases hchange with
  | same hrecords hrequests hdeals hv3 =>
    constructor <;> simp only [hrecords, hrequests]
    exacts [h.requests, h.rfqs, h.records, h.selected]
  | begins hnew hrfq hstart hlease hselection hbinding hok =>
    refine h.begins hnew hrfq ⟨hok, fun _ => hselection, fun hleased => Or.inl ?_⟩ hselection
    obtain ⟨id, hid⟩ := Option.isSome_iff_exists.mp hleased
    rw [(hlease id hid).1]
    rfl
  | request hr hmove hok =>
    have hmem := (get?_eq_some.mp hr).1
    refine h.putRequest hr (hmove.sound (h.requests _ hmem) hok) hmove.keeps.1
      (fun makerId => hmove.responded) fun s hs => ?_
    rw [hmove.keeps.2.1] at hs
    exact h.selected _ hmem s hs
  | record hmove =>
    cases hmove with
    | register hnew hrequest hplan hstate hauthorization =>
      refine h.putRecord ⟨_, hrequest, hplan⟩ fun r hr s hs hkey => ?_
      obtain ⟨e, he, -⟩ := h.selected r hr s hs
      rw [← hkey, hnew] at he
      cases he
    | release hc hpending hreleasable hstate =>
      refine h.setState (get?_eq_some.mp hc).1 ?_
      rcases hstate with rfl | rfl | rfl <;> simp
  | @confirm r c s hconfirms hr hc hheld hselection hstate hok =>
    obtain ⟨hmem, hkey⟩ := get?_eq_some.mp hc
    have hrecord : (a.putRecord { c with
        state := .selected, authorization := some (s.fence, s.quoteDigest) }).Bound := by
      refine h.putRecord (h.records c hmem) fun q hq s' hs' hkey' => ?_
      have hdigest : q.intentDigest = r.intentDigest :=
        congrArg RecordKey.intentDigest (hkey'.symm.trans hkey)
      have hsame := get?_mem hq
      rw [hdigest, hr] at hsame
      cases hsame
      rw [hselection] at hs'
      cases hs'
    refine hrecord.putRequest hr ⟨hok, fun hopened => (by cases hopened), fun hlease => ?_⟩ rfl
      (fun _ hresponded => hresponded) fun s' hs' => ?_
    · have hleased := (h.requests r (get?_eq_some.mp hr).1).leased hlease
      simp [hstate, RequestState.isReleasing] at hleased
    · cases hs'
      refine ⟨{ c with state := .selected, authorization := some (s.fence, s.quoteDigest) }, ?_,
        ⟨(congrArg RecordKey.pending hkey).symm, rfl⟩, by simp⟩
      rw [← hkey]
      exact get?_put_self
  | @fund r r' d hr hmove hdeal hselection hfree hok =>
    have hmem := (get?_eq_some.mp hr).1
    have hsound := h.requests r hmem
    have hdealt : (a.putDeal d).Bound := ⟨h.requests, h.rfqs, h.records, h.selected⟩
    rcases hmove with ⟨rfl, hstate⟩ | ⟨rfl, hstate⟩
    · refine hdealt.putRequest hr ⟨hok, fun hopened => (by cases hopened), fun hlease => ?_⟩ rfl
        (fun _ hresponded => hresponded) (h.selected r hmem)
      exact (hsound.not_leased (RequestState.not_releasing_of_funding hstate) hlease).elim
    · exact hdealt.putRequest hr
        ⟨hok, fun hopened => (by cases hopened), fun hlease => (by cases hlease)⟩ rfl
        (fun _ hresponded => hresponded) (h.selected r hmem)
  | bind hr hfunded hdeal hselection hfree => exact ⟨h.requests, h.rfqs, h.records, h.selected⟩
  | @fill r c s hr hstate hselection hc hfill hok =>
    have hrecord : (a.putRecord { c with state := .consumed }).Bound :=
      h.setState (get?_eq_some.mp hc).1 (by simp)
    have hmem := (get?_eq_some.mp hr).1
    refine hrecord.putRequest hr ⟨hok, fun hopened => (by cases hopened), fun hlease => ?_⟩ rfl
      (fun _ hresponded => hresponded) (hrecord.selected r hmem)
    exact ((h.requests r hmem).not_leased
      (RequestState.not_releasing_of_funding (Or.inr hstate)) hlease).elim

/-! ## Requests and deals -/

theorem Dealt.putRequest (h : a.Dealt) (hr : a.requests.get? r.intentDigest = some r)
    (hbinding : r'.binding = r.binding)
    (hselection : r.selection.isSome = true → r'.selection = r.selection)
    (hfunded : r'.state.isFunded = r.state.isFunded) : (a.putRequest r').Dealt := by
  have hkey : r'.intentDigest = r.intentDigest := by rw [Request.intentDigest, hbinding]; rfl
  constructor
  · intro d hd
    obtain ⟨q, hq, hdeal, hselected, hstate⟩ := h.deals d hd
    by_cases hne : d.binding.intentDigest = r'.intentDigest
    · rw [hne, hkey, hr] at hq
      cases hq
      refine ⟨r', hne ▸ get?_put_self, hbinding ▸ hdeal, ?_, hfunded.trans hstate⟩
      rw [hselection (by rw [hselected]; rfl), hselected]
    · exact ⟨q, (get?_put_of_ne hne).trans hq, hdeal, hselected, hstate⟩
  · intro q hq hstate
    rcases mem_put.mp hq with rfl | ⟨hold, -⟩
    · rw [hbinding]
      exact h.funded r (get?_eq_some.mp hr).1 (hfunded ▸ hstate)
    · exact h.funded q hold hstate

theorem Sound.fund (h : a.Sound) {d : Deal} (hr : a.requests.get? r.intentDigest = some r)
    (hbinding : r'.binding = r.binding) (hselection : r'.selection = r.selection)
    (hfunded : r'.state.isFunded = true) (hdeal : d = ⟨r.binding, r.binding.rfqId, d.selection⟩)
    (hselected : r.selection = some d.selection) : ((a.putDeal d).putRequest r').Dealt := by
  have hkey : r'.intentDigest = r.intentDigest := by rw [Request.intentDigest, hbinding]; rfl
  have hmem := (get?_eq_some.mp hr).1
  have hid : d.dealId = r.binding.rfqId := congrArg Deal.dealId hdeal
  have hdigest : d.binding = r.binding := congrArg Deal.binding hdeal
  constructor
  · intro e he
    rcases mem_put.mp he with rfl | ⟨hold, hne⟩
    · refine ⟨r', ?_, hbinding ▸ hdeal, hselection.trans hselected, hfunded⟩
      rw [hdigest, ← hbinding]
      exact get?_put_self
    · obtain ⟨q, hq, hqdeal, hrest⟩ := h.deals e hold
      refine ⟨q, (get?_put_of_ne fun hsame => hne ?_).trans hq, hqdeal, hrest⟩
      rw [hsame, hkey, hr] at hq
      cases hq
      exact (congrArg Deal.dealId hqdeal).trans hid.symm
  · intro q hq hstate
    rcases mem_put.mp hq with rfl | ⟨hold, hne⟩
    · rw [hbinding, ← hid]
      exact ⟨d, get?_put_self, hdigest⟩
    · obtain ⟨e, he, hbound⟩ := h.funded q hold hstate
      refine ⟨e, (get?_put_of_ne fun hsame => hne ?_).trans he, hbound⟩
      rw [h.rfqs q hold r hmem (hsame.trans hid), hkey]

theorem Sound.dealt_change (h : a.Sound) (hchange : Change scope a b) : b.Dealt := by
  cases hchange with
  | same hrecords hrequests hdeals hv3 =>
    constructor <;> simp only [hdeals, hrequests]
    exacts [h.deals, h.funded]
  | @begins r hnew hrfq hstart hlease hselection hok =>
    constructor
    · intro d hd
      obtain ⟨q, hq, hrest⟩ := h.deals d hd
      refine ⟨q, (get?_put_of_ne fun hkey => ?_).trans hq, hrest⟩
      rw [hkey, hnew] at hq
      cases hq
    · intro q hq hstate
      rcases mem_put.mp hq with rfl | ⟨hold, -⟩
      · rcases hstart with ⟨hs, -⟩ | ⟨hs, -⟩ <;> simp [hs, RequestState.isFunded] at hstate
      · exact h.funded q hold hstate
  | request hr hmove hok =>
    exact h.toDealt.putRequest hr hmove.keeps.1 (fun _ => hmove.keeps.2.1)
      (h.isFunded_eq (get?_eq_some.mp hr).1 hmove hok)
  | record hmove => exact ⟨h.deals, h.funded⟩
  | @confirm r c s hconfirms hr hc hheld hselection hstate hok =>
    have hrecord : (a.putRecord { c with
        state := .selected, authorization := some (s.fence, s.quoteDigest) }).Dealt :=
      ⟨h.deals, h.funded⟩
    refine hrecord.putRequest hr rfl (fun hsome => ?_) ?_
    · rw [hselection] at hsome
      cases hsome
    · rw [hstate]
      rfl
  | @fund r r' d hr hmove hdeal hselection hfree hok =>
    rcases hmove with ⟨rfl, -⟩ | ⟨rfl, -⟩ <;> exact h.fund hr rfl rfl rfl hdeal hselection
  | @bind r d hr hfunded hdeal hselection hfree =>
    have hput : (a.putDeal d).putRequest r = a.putDeal d := by
      rw [Authority.putRequest, putDeal, Table.put_eq_self (get?_eq_some.mp hr).1]
    exact hput ▸ h.fund hr rfl rfl hfunded hdeal hselection
  | @fill r c s hr hstate hselection hc hfill hok =>
    have hrecord : (a.putRecord { c with state := .consumed }).Dealt := ⟨h.deals, h.funded⟩
    refine hrecord.putRequest hr rfl (fun _ => rfl) ?_
    rw [hstate]
    rfl

/-- A change keeps the invariant. -/
theorem Sound.change (h : a.Sound) (hchange : Change scope a b) : b.Sound :=
  { h.toBound.change hchange, h.dealt_change hchange with }

end Authority

end App20.Coordinator
