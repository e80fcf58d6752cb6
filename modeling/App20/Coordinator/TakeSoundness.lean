import App20.Coordinator.Histories

/-!
# The invariant of v3 requests

What holds of the v3 requests in every state that the coordinator reaches. An active attempt is not among
the closed ones and leaves room among them, and what a stored request needs to expire it has.

* `Authority.V3Sound.progress`: every change keeps the invariant.
* `Authority.V3Sound.enter_ok`: the automatic expiry never fails.
-/

namespace App20.Coordinator

open App20.Lib App20.Domain
open Relation (ReflTransGen)

/-- What holds of a stored v3 request. What was given when its attempt began still fits. -/
structure V3Request.Sound (cap : Nat) (r : V3Request) : Prop where
  consistent : r.Consistent
  pending : r.state = .takePending → r.takeTransactionHash = none
  exclusive : ∀ attempt ∈ r.takeAttemptId, Authority.closedAttempt r attempt = none
  room : r.takeAttemptId.isSome = true → r.closedTakeAttempts.length < cap
  given : ∀ attempt ∈ r.takeAttemptId, ∃ input attemptId expected, r.expected = some expected ∧
    r.Given input attemptId attempt expected

section Requests

variable {cap : Nat} {r r' : V3Request} {stamp : Int} {op : V3Operation}

theorem V3Request.expire_ok (h : r.expire stamp = .ok r') :
    r' = r ∧ ¬ r.Due stamp ∨ r' = r.expireAt stamp ∧ r.Due stamp ∧ r'.Consistent := by
  unfold V3Request.expire at h
  split at h
  · rename_i hdue
    obtain ⟨rfl, hok⟩ := checkV3Request_ok.mp h
    exact Or.inr ⟨rfl, hdue, hok⟩
  · rename_i hdue
    cases h
    exact Or.inl ⟨rfl, hdue⟩

theorem V3Request.expire_key (h : r.expire stamp = .ok r') : r'.rfqDigest = r.rfqDigest := by
  rcases expire_ok h with ⟨rfl, -⟩ | ⟨rfl, -⟩ <;> rfl

theorem V3Request.Sound.expireAt (h : r.Sound cap) (hdue : r.Due stamp) :
    (r.expireAt stamp).Consistent := by
  have hc := h.consistent
  refine ⟨hc.cohort, hc.wires, hc.plans, hc.closed, hc.admitted, hc.fanout, fun htake => ?_,
    fun hopened => ?_, fun _ => ?_, fun hne => absurd rfl hne⟩
  · cases htake
  · cases hopened
  · refine ⟨⟨stamp, rfl, hdue.2⟩, r.state, rfl, hdue.1, hc.opened, fun hne => ?_, h.pending⟩
    apply hc.take
    have hactive := hdue.1
    cases hs : r.state <;> simp_all [V3RequestState.isActive, V3RequestState.isTake]

theorem V3Request.Sound.expire (h : r.Sound cap) : ∃ r', r.expire stamp = .ok r' := by
  unfold V3Request.expire
  split
  · rename_i hdue
    exact ⟨_, checkV3Request_ok.mpr ⟨rfl, h.expireAt hdue⟩⟩
  · exact ⟨r, rfl⟩

/-- What was given of an attempt fits a request with the same principal and quotes. -/
theorem V3Request.Given.congr {input : TakeInput} {attemptId attempt : Text} {expected : TakeExpected}
    (h : r.Given input attemptId attempt expected) (hbinding : r'.binding = r.binding)
    (hfanout : r'.fanoutComplete = true) (htranscript : r'.transcriptDigest.isSome = true)
    (hplans : r'.makerPlans = r.makerPlans) : r'.Given input attemptId attempt expected where
  exact := by
    refine ⟨?_, ?_, ?_, ?_, ?_, hfanout, htranscript, h.exact.terms, ?_⟩ <;>
      simp only [hbinding, hplans]
    exacts [h.exact.rfqId, h.exact.dealId, h.exact.account, h.exact.chainId, h.exact.intentDigest,
      h.exact.fills]
  attempt := h.attempt

theorem V3Request.Sound.of_expire (h : r.Sound cap) (hexpire : r.expire stamp = .ok r') :
    r'.Sound cap := by
  rcases expire_ok hexpire with ⟨rfl, -⟩ | ⟨rfl, -, hok⟩
  · exact h
  · refine ⟨hok, fun hpending => (by cases hpending), h.exclusive, h.room, fun attempt hattempt => ?_⟩
    obtain ⟨input, attemptId, expected, hexpected, hgiven⟩ := h.given attempt hattempt
    exact ⟨input, attemptId, expected, hexpected,
      hgiven.congr rfl hgiven.exact.fanout hgiven.exact.transcript rfl⟩

theorem V3Move.key (h : V3Move cap op r r') : r'.rfqDigest = r.rfqDigest ∧ r'.binding = r.binding := by
  cases h with
  | unknown =>
    unfold V3Request.unknown
    split <;> exact ⟨rfl, rfl⟩
  | _ => exact ⟨rfl, rfl⟩

theorem V3Request.Consistent.not_planned (h : r.Consistent) (hfanout : r.fanoutComplete = true)
    {makerId : Text} {plan : V3MakerPlan} (hplan : Authority.v3PlanOf r.makerPlans makerId = some plan) :
    plan.outcome.isPlanned = false := by
  have hnone := h.fanout hfanout
  rw [List.any_eq_false] at hnone
  exact Bool.eq_false_of_not_eq_true (hnone plan (List.mem_of_find?_eq_some hplan))

theorem V3Request.Sound.holds (h : r.Sound cap) {attempt : Text}
    (hattempt : r.takeAttemptId = some attempt) : ∃ input attemptId expected,
      Authority.Holds r attempt expected ∧ r.Given input attemptId attempt expected := by
  obtain ⟨input, attemptId, expected, hexpected, hgiven⟩ := h.given attempt hattempt
  exact ⟨input, attemptId, expected, ⟨hattempt, hexpected⟩, hgiven⟩

theorem V3Move.sound (h : V3Move cap op r r') (hr : r.Sound cap) (hok : r'.Consistent) :
    r'.Sound cap := by
  -- the attempt of the request, where it keeps its plans and its transcript
  have hkeeps {q : V3Request} (hattempt : q.takeAttemptId = r.takeAttemptId)
      (hexpected : q.expected = r.expected) (hbinding : q.binding = r.binding)
      (hfanout : r.fanoutComplete = true → q.fanoutComplete = true)
      (htranscript : r.transcriptDigest.isSome = true → q.transcriptDigest.isSome = true)
      (hplans : r.fanoutComplete = true → q.makerPlans = r.makerPlans) :
      ∀ attempt ∈ q.takeAttemptId, ∃ input attemptId expected, q.expected = some expected ∧
        q.Given input attemptId attempt expected := by
    intro attempt hq
    rw [hattempt] at hq
    obtain ⟨input, attemptId, expected, hterms, hgiven⟩ := hr.given attempt hq
    have hcomplete := hgiven.exact.fanout
    exact ⟨input, attemptId, expected, hexpected.trans hterms, hgiven.congr hbinding
      (hfanout hcomplete) (htranscript hgiven.exact.transcript) (hplans hcomplete)⟩
  cases h with
  | outcome hplan hplanned =>
    refine ⟨hok, hr.pending, hr.exclusive, hr.room, hkeeps rfl rfl rfl id id fun hcomplete => ?_⟩
    rw [hr.consistent.not_planned hcomplete hplan] at hplanned
    cases hplanned
  | fanout =>
    exact ⟨hok, hr.pending, hr.exclusive, hr.room, hkeeps rfl rfl rfl (fun _ => rfl) id fun _ => rfl⟩
  | transcript hnone =>
    exact ⟨hok, hr.pending, hr.exclusive, hr.room, hkeeps rfl rfl rfl id (fun _ => rfl) fun _ => rfl⟩
  | prepare hop hgiven hstate hclosed hcap =>
    refine ⟨hok, fun _ => (hr.consistent.opened hstate).2.2, fun attempt hattempt => ?_, fun _ => hcap,
      fun attempt hattempt => ?_⟩
    · cases hattempt
      exact hclosed
    · cases hattempt
      exact ⟨_, _, _, rfl, hgiven.congr rfl hgiven.exact.fanout hgiven.exact.transcript rfl⟩
  | unknown hop hgiven hopened htaken hheld hhash =>
    refine ⟨hok, fun hpending => ?_, ?_, ?_, ?_⟩
    · unfold V3Request.unknown at hpending
      split at hpending
      · rename_i hexpired
        rw [show _ = _ from hexpired] at hpending
        cases hpending
      · cases hpending
    all_goals
      unfold V3Request.unknown
      split
    any_goals exact hr.exclusive
    any_goals exact hr.room
    all_goals exact hkeeps rfl rfl rfl id id fun _ => rfl
  | close hop hgiven htaken hheld hclosed hcap =>
    refine ⟨hok, fun hpending => ?_, fun attempt hattempt => (by cases hattempt),
      fun hattempt => (by cases hattempt), fun attempt hattempt => (by cases hattempt)⟩
    rfl
  | take hop hgiven hopened hheld hhash =>
    exact ⟨hok, fun hpending => (by cases hpending), hr.exclusive, hr.room,
      hkeeps rfl rfl rfl id id fun _ => rfl⟩

end Requests

/-! ## All requests -/

namespace Authority

variable {a b : Authority} {limits : Limits} {op : V3Operation} {takes : V3Operation → Prop}

structure V3Sound (cap : Nat) (a : Authority) : Prop where
  requests : ∀ r ∈ a.v3Requests.entries, r.Sound cap
  rfqs : ∀ r ∈ a.v3Requests.entries, ∀ r' ∈ a.v3Requests.entries,
    r.binding.rfqId = r'.binding.rfqId → r = r'

theorem V3Sound.empty {cap : Nat} : Authority.empty.V3Sound cap where
  requests r hr := by cases hr
  rfqs r hr := by cases hr

theorem V3Sound.mono {cap : Nat} (h : a.V3Sound cap)
    (hv3 : b.v3Requests.entries ⊆ a.v3Requests.entries) : b.V3Sound cap where
  requests r hr := h.requests r (hv3 hr)
  rfqs r hr r' hr' := h.rfqs r (hv3 hr) r' (hv3 hr')

theorem V3Sound.congr {cap : Nat} (h : a.V3Sound cap) (hv3 : b.v3Requests = a.v3Requests) :
    b.V3Sound cap := h.mono (hv3 ▸ List.Subset.refl _)

theorem V3Sound.put {cap : Nat} (h : a.V3Sound cap) {r : V3Request} (hr : r.Sound cap)
    (hrfq : ∀ q ∈ a.v3Requests.entries, q.binding.rfqId = r.binding.rfqId →
      q.rfqDigest = r.rfqDigest) : (a.putV3Request r).V3Sound cap := by
  constructor
  · intro q hq
    rcases Table.mem_put.mp hq with rfl | ⟨hold, -⟩
    · exact hr
    · exact h.requests q hold
  · intro q hq q' hq' hsame
    rcases Table.mem_put.mp hq with rfl | ⟨hold, hne⟩ <;>
      rcases Table.mem_put.mp hq' with heq | ⟨hold', hne'⟩
    · exact heq.symm
    · exact absurd (hrfq q' hold' hsame.symm) hne'
    · exact absurd (hrfq q hold (heq ▸ hsame)) (heq ▸ hne)
    · exact h.rfqs q hold q' hold' hsame

theorem V3Sound.change (h : a.V3Sound limits.maxClosedTakeAttempts) (hchange : V3Change limits op a b) :
    b.V3Sound limits.maxClosedTakeAttempts := by
  cases hchange with
  | @begins r hnew hrfq hstate hclosed hok =>
    have hnone := (hok.opened hstate).1
    refine h.put ⟨hok, fun hpending => ?_, fun attempt hattempt => ?_, fun hactive => ?_,
      fun attempt hattempt => ?_⟩ ?_
    · rw [hstate] at hpending
      cases hpending
    · rw [hnone] at hattempt
      cases hattempt
    · rw [hnone] at hactive
      cases hactive
    · rw [hnone] at hattempt
      cases hattempt
    · exact fun q hq hsame => absurd hsame (hrfq q hq)
  | @moves r r' hr hmove hok =>
    obtain ⟨hmem, -⟩ := Table.get?_eq_some.mp hr
    refine h.put (hmove.sound (h.requests r hmem) hok) fun q hq hsame => ?_
    rw [hmove.key.2] at hsame
    rw [h.rfqs q hq r hmem hsame, hmove.key.1]

theorem V3Sound.expire (h : a.V3Sound limits.maxClosedTakeAttempts) {stamp : Int}
    (hexpire : a.expireV3Requests stamp = .ok b) : b.V3Sound limits.maxClosedTakeAttempts := by
  simp only [expireV3Requests, bind_ok, pure_ok] at hexpire
  obtain ⟨requests, hrequests, rfl⟩ := hexpire
  have hkey : ∀ x y : V3Request, x.expire stamp = .ok y → y.rfqDigest = x.rfqDigest :=
    fun _ _ => V3Request.expire_key
  constructor
  · intro r hr
    obtain ⟨q, hq, hqr⟩ := Table.mapM_mem hkey hrequests hr
    exact (h.requests q hq).of_expire hqr
  · intro r hr r' hr' hsame
    obtain ⟨q, hq, hqr⟩ := Table.mapM_mem hkey hrequests hr
    obtain ⟨q', hq', hqr'⟩ := Table.mapM_mem hkey hrequests hr'
    have hbinding {x y : V3Request} (hxy : x.expire stamp = .ok y) : y.binding = x.binding := by
      rcases V3Request.expire_ok hxy with ⟨rfl, -⟩ | ⟨rfl, -⟩ <;> rfl
    rw [hbinding hqr, hbinding hqr'] at hsame
    obtain rfl := h.rfqs q hq q' hq' hsame
    rw [hqr] at hqr'
    exact Except.ok.inj hqr'

/-- Every change keeps the invariant. -/
theorem V3Sound.progress (h : a.V3Sound limits.maxClosedTakeAttempts)
    (hprogress : V3Progress limits takes a b) : b.V3Sound limits.maxClosedTakeAttempts := by
  cases hprogress with
  | same hv3 => exact h.congr hv3
  | change hop hchange => exact h.change hchange
  | expire hexpire => exact h.expire hexpire

theorem V3Sound.changes {scope : Scope} (h : a.V3Sound scope.limits.maxClosedTakeAttempts)
    (hchanges : ReflTransGen (Change scope) a b) : b.V3Sound scope.limits.maxClosedTakeAttempts := by
  induction hchanges with
  | refl => exact h
  | tail _ hchange ih => exact ih.progress (change_progress hchange)

theorem V3Sound.expire_ok {cap : Nat} (h : a.V3Sound cap) (stamp : Int) :
    ∃ b, a.expireV3Requests stamp = .ok b := by
  obtain ⟨requests, hrequests⟩ :
      ∃ requests, a.v3Requests.mapM (V3Request.expire stamp) = .ok requests :=
    Table.mapM_isOk.mpr fun r hr => (h.requests r hr).expire
  refine ⟨{ a with v3Requests := requests }, ?_⟩
  simp only [expireV3Requests, hrequests]
  rfl

theorem V3Sound.enter_ok {cap : Nat} (h : a.V3Sound cap) {clock stamp : Int}
    (hclock : requireTimestamp clock "coordinator clock" = .ok stamp) :
    ∃ b, a.enter clock = .ok b := by
  obtain ⟨b, hb⟩ := h.expire_ok stamp
  refine ⟨b, ?_⟩
  simp only [enter, hclock, ok_bind, hb]

end Authority

end App20.Coordinator
