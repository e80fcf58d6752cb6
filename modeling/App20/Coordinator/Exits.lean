import App20.Coordinator.Markets
import App20.Coordinator.TakeSoundness

/-!
# Ways out before funding

A request that is open, selected, ready for its ticket or on its way out can be released by its account
alone: the tasks under way are answered, the release lease is taken, and every maker is asked once. A
request that waits for the acknowledgement of a maker or for its ticket cannot.

* `exits`: the way out.
* `Waits.run`: a request that waits stays as it is.
-/

namespace App20.Coordinator

open App20.Lib App20.Domain
open App20.Reservation (maxSafeInteger)
open Relation (ReflTransGen)
open Table (get?_eq_some mem_put get?_mem get?_put_of_ne get?_put_self)

/-! ## What a way out needs of a request -/

/-- The binding and the lease of a request can be given again. -/
structure Request.Usable (r : Request) : Prop where
  binding : ∃ input, requestBinding input = .ok r.binding
  lease : ∀ id ∈ r.releaseLeaseId, ∃ input, requireAttemptId input "releaseLeaseId" = .ok id

variable {r' : Request} {digest : Text} {steps : List Step} {key : RecordKey} {rest : List Record}

namespace Authority

variable {a b : Authority} {scope : Scope}

def Usable (a : Authority) : Prop := ∀ r ∈ a.requests.entries, r.Usable

theorem Usable.put {r : Request} (h : a.Usable) (hr : a.requests.get? r.intentDigest = some r)
    (hbinding : r'.binding = r.binding) (hlease : ∀ id ∈ r'.releaseLeaseId, id ∈ r.releaseLeaseId ∨
      ∃ input, requireAttemptId input "releaseLeaseId" = .ok id) : (a.putRequest r').Usable := by
  intro q hq
  have hold := h r (get?_eq_some.mp hr).1
  rcases mem_put.mp hq with rfl | ⟨hmem, -⟩
  · refine ⟨hbinding ▸ hold.binding, fun id hid => ?_⟩
    rcases hlease id hid with hsame | hgiven
    · exact hold.lease id hsame
    · exact hgiven
  · exact h q hmem

theorem move_lease {r : Request} (h : Move scope a r r') :
    ∀ id ∈ r'.releaseLeaseId, id ∈ r.releaseLeaseId ∨
      ∃ input, requireAttemptId input "releaseLeaseId" = .ok id := by
  intro id hid
  cases h with
  | lease hgiven hstate hdeal =>
    cases hid
    exact Or.inr hgiven
  | prepareRelease hstate hcompleted => rcases hcompleted with rfl | rfl <;> exact Or.inl hid
  | _ => exact Or.inl hid

theorem Usable.change (h : a.Usable) (hchange : Change scope a b) : b.Usable := by
  cases hchange with
  | same hrecords hrequests hdeals hv3 =>
    unfold Usable
    rw [hrequests]
    exact h
  | begins hnew hrfq hstart hlease hselection hbinding hok =>
    intro q hq
    rcases mem_put.mp hq with rfl | ⟨hmem, -⟩
    · exact ⟨hbinding, fun id hid => (hlease id hid).2⟩
    · exact h q hmem
  | request hr hmove hok => exact h.put hr hmove.keeps.1 (move_lease hmove)
  | record hmove | bind hr hfunded hdeal hselection hfree => exact h
  | @confirm r c s hconfirms hr hc hheld hselection hstate hok
  | @fill r c s hr hstate hselection hc hfill hok =>
    exact Usable.put (a := a.putRecord _) h hr rfl fun _ hid => Or.inl hid
  | @fund r r' d hr hmove hdeal hselection hfree hok =>
    rcases hmove with ⟨rfl, -⟩ | ⟨rfl, -⟩
    · exact Usable.put (a := a.putDeal d) h hr rfl fun _ hid => Or.inl hid
    · exact Usable.put (a := a.putDeal d) h hr rfl fun _ hid => (by cases hid)

theorem Usable.changes (h : a.Usable) (hchanges : ReflTransGen (Change scope) a b) : b.Usable := by
  induction hchanges with
  | refl => exact h
  | tail _ hchange ih => exact ih.change hchange

end Authority

namespace System

variable {s : System} {config : Config}

theorem run_changes (s : System) (config : Config) (steps : List Step) :
    ReflTransGen (Change (anyScope config.limits)) s.authority
      (Lib.run (System.step config) s steps).authority := by
  induction steps generalizing s with
  | nil => exact .refl
  | cons st steps ih =>
    exact .trans (any_changes s config st) (ih _)

end System

/-! ## Requests that wait -/

/-- A request that waits for an acknowledgement or a ticket, of which a maker has responded. -/
def Authority.Waits (a : Authority) (digest : Text) : Prop :=
  ∃ r, a.requests.get? digest = some r ∧ (r.state = .selectionPending ∨ r.state = .ticketPending) ∧
    ∃ c ∈ a.records.entries, c.key.intentDigest = digest

theorem Move.waits {scope : Scope} {a : Authority} {r : Request} (h : Move scope a r r')
    (hpersists : ¬ scope.persists) (hstate : r.state = .selectionPending ∨ r.state = .ticketPending)
    {makerId : Text} (hresponded : Responded r.makerPlans makerId) : r'.state = r.state := by
  cases h with
  | refuse | respond | complete | close | expirePlans => rfl
  | completeReleased hresolved hwhy =>
    rcases hwhy with hpending | ⟨hplans, hrefused⟩
    · simp [hpending] at hstate
    · exact (hresponded.not_refused hplans hrefused).elim
  | ticketReady hallowed hticket => exact absurd hallowed hpersists
  | terminal hfollows => rcases hstate with h | h <;> simp [h, TerminalOutcome.follows] at hfollows
  | late hlate =>
    rcases hstate with h | h <;> simp [h, RequestState.isReleasing, RequestState.isTerminal] at hlate
  | prepareRelease hreleasing hcompleted =>
    rcases hstate with h | h <;> simp [h, RequestState.isReleasing] at hreleasing
  | fundingUnknown hfunding => rcases hstate with h | h <;> simp [h, RequestState.isFunding] at hfunding
  | lease hid hfree hdeal => rcases hstate with h | h <;> simp [h] at hfree
  | quarantine hended => rcases hstate with h | h <;> simp [h] at hended
  | select _ hopened | ticket hopened | prepareFunding hopened | abandonTicket hopened
  | abandonFunding hopened | released hopened => rcases hstate with h | h <;> simp [h] at hopened

theorem Authority.Sound.waits {scope : Scope} {a b : Authority} (h : a.Sound)
    (hchange : Change scope a b) (hconfirms : ¬ scope.confirms) (hpersists : ¬ scope.persists)
    (hwaits : a.Waits digest) : b.Waits digest := by
  obtain ⟨r, hr, hstate, c, hc, hdigest⟩ := hwaits
  have hmem := (get?_eq_some.mp hr).1
  -- the reservation that the maker responded with stays
  have hrecord : ∃ c ∈ b.records.entries, c.key.intentDigest = digest := by
    obtain ⟨c', hc', -⟩ := Authority.record_change hchange (get?_mem hc)
    obtain ⟨hmem', hkey⟩ := get?_eq_some.mp hc'
    exact ⟨c', hmem', by rw [hkey]; exact hdigest⟩
  have hother {q q' : Request} (hkey : q'.intentDigest = q.intentDigest)
      (hq : a.requests.get? q.intentDigest = some q)
      (hnot : ¬ (q.state = .selectionPending ∨ q.state = .ticketPending)) :
      (a.requests.put q').get? digest = some r := by
    rw [get?_put_of_ne fun heq => hnot ?_]
    · exact hr
    · rw [heq, hkey, hq] at hr
      cases hr
      exact hstate
  cases hchange with
  | same hrecords hrequests hdeals hv3 => exact ⟨r, hrequests ▸ hr, hstate, hrecord⟩
  | begins hnew hrfq hstart hlease hselection hbinding hok =>
    refine ⟨r, (get?_put_of_ne fun heq => ?_).trans hr, hstate, hrecord⟩
    rw [heq, hnew] at hr
    cases hr
  | @request q q' hq hmove hok =>
    by_cases hkey : digest = q'.intentDigest
    · have hsame : q = r := by
        rw [hkey, hmove.key, hq] at hr
        exact Option.some.inj hr
      subst hsame
      obtain ⟨q, hq', hresponded⟩ := h.records c hc
      rw [hdigest, hr] at hq'
      cases hq'
      have hkept := hmove.waits hpersists hstate hresponded
      exact ⟨q', hkey ▸ get?_put_self, hkept ▸ hstate, hrecord⟩
    · exact ⟨r, (get?_put_of_ne hkey).trans hr, hstate, hrecord⟩
  | record hmove | bind hr' hfunded hdeal hselection hfree => exact ⟨r, hr, hstate, hrecord⟩
  | confirm hallowed => exact absurd hallowed hconfirms
  | @fund q q' d hq hmove hdeal hselection hfree hok =>
    rcases hmove with ⟨rfl, hfund⟩ | ⟨rfl, hfund⟩ <;>
      refine ⟨r, hother (q := q) rfl hq fun hnot => ?_, hstate, hrecord⟩ <;>
      rcases hnot with h | h <;> simp [h, RequestState.isFunding] at hfund
  | @fill q c' s hq hfunded hselection hc' hfill hok =>
    exact ⟨r, hother (q := q) rfl hq (by simp [hfunded]), hstate, hrecord⟩

theorem Authority.Sound.waits_changes {scope : Scope} {a b : Authority} (h : a.Sound)
    (hconfirms : ¬ scope.confirms) (hpersists : ¬ scope.persists) (hwaits : a.Waits digest)
    (hchanges : ReflTransGen (Change scope) a b) : b.Waits digest := by
  have hboth : b.Sound ∧ b.Waits digest := by
    induction hchanges with
    | refl => exact ⟨h, hwaits⟩
    | tail _ hchange ih =>
      exact ⟨ih.1.change hchange, ih.1.waits hchange hconfirms hpersists ih.2⟩
  exact hboth.2

/-- The steps that bring the acknowledgement of a maker, or a ticket. -/
def Step.Acknowledges : Step → Prop
  | .operation performed _ => performed.Confirms ∨ performed.Persists
  | _ => False

section Waiting

variable {s : System} {config : Config}

theorem waits_step {st : Step} (h : s.Sound) (hst : ¬ st.Acknowledges)
    (hwaits : s.authority.Waits digest) : (s.step config st).authority.Waits digest := by
  let scope : Scope := ⟨config.limits, fun _ => True, fun _ => True, False, False, fun _ => True⟩
  have hpermitted : st.Permitted scope s.authority := by
    cases st with
    | operation performed clock =>
      exact ⟨fun _ _ => trivial, fun hconfirms => hst (Or.inl hconfirms),
        fun hpersists => hst (Or.inr hpersists), fun _ _ => trivial⟩
    | _ => trivial
  exact h.authority.waits_changes (fun hno : False => hno) (fun hno : False => hno) hwaits
    (System.step_changes rfl hpermitted fun _ _ => trivial)

/-- A request that waits stays so until it is acknowledged or has its ticket. -/
theorem waits_run (h : s.Sound) (hsteps : ∀ st ∈ steps, ¬ st.Acknowledges)
    (hwaits : s.authority.Waits digest) :
    (run (System.step config) s steps).authority.Waits digest := by
  induction steps generalizing s with
  | nil => exact hwaits
  | cons st steps ih =>
    obtain ⟨hst, hrest⟩ := List.forall_mem_cons.mp hsteps
    exact ih (h.step st) hrest (waits_step h hst hwaits)

theorem waits_not_released {a : Authority} (h : a.Waits digest) {r : Request}
    (hr : a.requests.get? digest = some r) : r.state ≠ .released := by
  obtain ⟨q, hq, hstate, -⟩ := h
  rw [hr] at hq
  cases hq
  rcases hstate with h | h <;> simp [h]

end Waiting

/-- A request on its way out has what it needs. -/
theorem Request.Consistent.out {r : Request} (state : RequestState) (lease : Option Text)
    (h : r.Consistent) (hpending : r.state ≠ .selectionPending)
    (hstate : state = .released ∨ state.isReleasing = true ∧ lease.isSome = true) :
    ({ r with state, releaseLeaseId := lease } : Request).Consistent where
  pending hs := by rcases hstate with rfl | ⟨hs', -⟩ <;> simp_all [RequestState.isReleasing]
  pendingOnly _ := h.pendingOnly hpending
  selection hs := by
    rcases hstate with rfl | ⟨hs', -⟩
    · cases hs
    · cases state <;> simp_all [RequestState.isReleasing, RequestState.needsSelection]
  ticket hs := by
    rcases hstate with rfl | ⟨hs', -⟩
    · cases hs
    · cases state <;> simp_all [RequestState.isReleasing, RequestState.isTicket]
  ticketReady hs := by rcases hstate with rfl | ⟨hs', -⟩ <;> simp_all [RequestState.isReleasing]
  funding hs := by
    rcases hstate with rfl | ⟨hs', -⟩
    · cases hs
    · cases state <;> simp_all [RequestState.isReleasing, RequestState.isFunding]
  releasing hs := by
    rcases hstate with rfl | ⟨-, hlease⟩
    · cases hs
    · exact hlease
  agrees := h.agrees

/-! ## Tasks that come to their end -/

/-- A bound of the steps that a task still takes. -/
def Phase.work : Phase → Nat
  | .next rest => 4 * rest.length + 2
  | .joining _ rest => 4 * rest.length + 3
  | .marking _ rest => 4 * rest.length + 5
  | .calling _ rest => 4 * rest.length + 4
  | .finishing _ _ rest => 4 * rest.length + 3
  | .completing => 1
  | .done _ => 0

def System.work (s : System) : Nat := (s.tasks.map fun t => t.phase.work).sum

/-- What the end of tasks leaves of a request: it stays, or is on its way out. -/
structure Winds (r r' : Request) : Prop where
  binding : r'.binding = r.binding
  expiresAt : r'.expiresAt = r.expiresAt
  state : r'.state = r.state ∨ r'.state = .releasePending ∨ r'.state = .released

theorem Winds.refl {r : Request} : Winds r r := ⟨rfl, rfl, Or.inl rfl⟩

theorem Winds.trans {r r'' : Request} (h : Winds r r') (h' : Winds r' r'') : Winds r r'' where
  binding := h'.binding.trans h.binding
  expiresAt := h'.expiresAt.trans h.expiresAt
  state := by
    rcases h'.state with hsame | hout
    · rw [hsame]
      exact h.state
    · exact Or.inr hout

def Authority.Winds (a b : Authority) : Prop :=
  ∀ digest r, a.requests.get? digest = some r →
    ∃ r', b.requests.get? digest = some r' ∧ Coordinator.Winds r r'

namespace Authority

variable {a b c : Authority}

theorem Winds.of_requests (h : b.requests = a.requests) : a.Winds b :=
  fun _ r hr => ⟨r, h ▸ hr, .refl⟩

theorem Winds.trans (h : a.Winds b) (h' : b.Winds c) : a.Winds c := by
  intro digest r hr
  obtain ⟨r', hr', hwinds⟩ := h digest r hr
  obtain ⟨r'', hr'', hwinds'⟩ := h' digest r' hr'
  exact ⟨r'', hr'', Coordinator.Winds.trans hwinds hwinds'⟩

theorem Winds.put {r : Request} (hr : a.requests.get? r.intentDigest = some r)
    (hwinds : Coordinator.Winds r r') : a.Winds (a.putRequest r') := by
  have hkey : r'.intentDigest = r.intentDigest := by
    rw [Request.intentDigest, hwinds.binding]
    rfl
  intro digest q hq
  by_cases hdigest : digest = r'.intentDigest
  · rw [hdigest, hkey, hr] at hq
    cases hq
    exact ⟨r', hdigest ▸ get?_put_self, hwinds⟩
  · exact ⟨q, (get?_put_of_ne hdigest).trans hq, .refl⟩

theorem lateRegistration_winds {outcome : Outcome Record}
    (h : a.lateRegistration key = .ok outcome) : a.Winds (a.after (.ok outcome)) := by
  unfold lateRegistration at h
  split at h
  · rename_i current r hcurrent hget
    have hr : a.requests.get? r.intentDigest = some r := get?_mem (get?_eq_some.mp hget).1
    split at h
    · cases h
      exact .of_requests rfl
    · simp only [bind_ok] at h
      obtain ⟨_, -, h⟩ := h
      split at h
      · cases h
        exact .of_requests rfl
      · simp only [bind_ok, pure_ok] at h
        obtain ⟨n, hn, rfl⟩ := h
        obtain ⟨rfl, -⟩ := checkRequest_ok.mp hn
        exact .put hr ⟨rfl, rfl, Or.inr (Or.inl rfl)⟩
  · cases h

theorem completeReleaseIntent_winds {binding : Binding} {leaseId : Text}
    {outcome : Outcome ReleaseResult} (h : a.completeReleaseIntent binding leaseId = .ok outcome) :
    a.Winds (a.after (.ok outcome)) := by
  simp only [completeReleaseIntent, bind_ok] at h
  obtain ⟨r, hget, _, -, h⟩ := h
  have hr := (requestOf_ok hget).2
  split at h
  · cases h
    exact .of_requests rfl
  · simp only [bind_ok] at h
    obtain ⟨_, -, h⟩ := h
    split at h
    · simp only [bind_ok, pure_ok] at h
      obtain ⟨n, hn, rfl⟩ := h
      obtain ⟨rfl, -⟩ := checkRequest_ok.mp hn
      exact .put hr ⟨rfl, rfl, Or.inr (Or.inr rfl)⟩
    · cases h
      exact .of_requests rfl

theorem recoverRequests_winds {stamp : Int} (h : a.recoverRequests stamp = .ok b) : a.Winds b := by
  simp only [recoverRequests, bind_ok, pure_ok] at h
  obtain ⟨requests, hrequests, rfl⟩ := h
  intro digest r hr
  obtain ⟨r', hrecover, hr'⟩ :=
    (Table.mapM_ok (fun _ _ => recoverRequest_key) hrequests digest).2 r hr
  refine ⟨r', hr', ?_⟩
  obtain ⟨completed, hcompleted, hreleased⟩ := recoverRequest_ok hrecover
  have hfirst : Coordinator.Winds r completed := by
    rcases hcompleted with rfl | hcompleted
    · exact .refl
    · obtain ⟨rfl, -⟩ := checkRequest_ok.mp hcompleted
      exact ⟨rfl, rfl, Or.inl rfl⟩
  rcases hreleased with rfl | ⟨hreleased, -⟩
  · exact hfirst
  · obtain ⟨rfl, -⟩ := checkRequest_ok.mp hreleased
    exact hfirst.trans ⟨rfl, rfl, Or.inr (Or.inr rfl)⟩

theorem markRelease_requests {now : Int} :
    (a.after (.ok (a.markRelease key now))).requests = a.requests := by
  unfold markRelease
  split
  · rfl
  · split <;> rfl

theorem finishRelease_requests {released : Bool} :
    (a.after (.ok (a.finishRelease key released))).requests = a.requests := by
  unfold finishRelease
  split
  · rfl
  · split <;> rfl

end Authority

namespace System

variable {s : System} {a : Authority} {config : Config}

theorem complete_winds {t : Task} : a.Winds (complete a t).1 := by
  unfold complete
  split
  · split
    · rename_i outcome houtcome
      exact Authority.lateRegistration_winds houtcome
    · exact .of_requests rfl
  · exact .of_requests rfl
  · split
    · rename_i outcome houtcome
      exact Authority.completeReleaseIntent_winds houtcome
    · exact .of_requests rfl
  · split <;> exact .of_requests rfl
  · split
    · rename_i recovered hrecovered
      have hwinds := Authority.recoverRequests_winds hrecovered
      split
      · rename_i expired hexpired
        obtain ⟨-, hrequests, -⟩ := Authority.expireV3Requests_same hexpired
        exact hwinds.trans (.of_requests hrequests)
      · exact hwinds
    · exact .of_requests rfl

theorem advance_winds {t : Task} {answer : Answer} {clock : Int} :
    s.authority.Winds (s.advance t answer clock).1 := by
  unfold advance
  split
  · exact .of_requests rfl
  · exact .of_requests rfl
  · exact .of_requests rfl
  · exact .of_requests rfl
  · split
    · exact .of_requests rfl
    · rename_i b hb
      obtain ⟨-, hrequests, -⟩ := Authority.enter_same hb
      refine (Authority.Winds.of_requests hrequests).trans ?_
      unfold serialized
      split
      · exact .of_requests rfl
      · exact .of_requests Authority.markRelease_requests
      · exact .of_requests Authority.finishRelease_requests
      · exact complete_winds
      · exact .of_requests rfl

/-- A step of a task that is not done brings it nearer to its end. -/
theorem advance_work {t : Task} {answer : Answer} {clock : Int} (h : t.phase.work ≠ 0) :
    (s.advance t answer clock).2.phase.work < t.phase.work := by
  obtain ⟨kind, started, unresolved, phase⟩ := t
  cases phase with
  | next rest =>
    cases rest with
    | nil => exact Nat.one_lt_two
    | cons record rest =>
      dsimp only [advance]
      split <;> simp only [Phase.work, List.length_cons] <;> omega
  | calling record rest => exact Nat.lt_succ_self _
  | done result => exact absurd rfl h
  | joining key rest | finishing key released rest | completing =>
    dsimp only [advance]
    split
    · exact Nat.pos_of_ne_zero h
    · exact Nat.lt_succ_self _
  | marking key rest =>
    dsimp only [advance]
    split
    · exact Nat.pos_of_ne_zero h
    · dsimp only [serialized]
      split <;> simp only [Phase.work] <;> omega

theorem sum_set_lt {α : Type} {f : α → Nat} {xs : List α} {i : Nat} {x y : α}
    (hx : xs[i]? = some x) (hlt : f y < f x) : ((xs.set i y).map f).sum < (xs.map f).sum := by
  induction xs generalizing i with
  | nil => cases hx
  | cons z zs ih =>
    cases i with
    | zero =>
      cases hx
      simp only [List.set_cons_zero, List.map_cons, List.sum_cons]
      omega
    | succ i =>
      have hrest := ih hx
      simp only [List.set_cons_succ, List.map_cons, List.sum_cons]
      omega

/-- The steps that answer every maker. -/
def Advances (now : Int) (steps : List Step) : Prop :=
  ∀ st ∈ steps, ∃ task, st = .advance task .yes now

/-- All tasks can be brought to their end. -/
theorem drain (config : Config) (s : System) (now : Int) : ∃ later, Advances now later ∧
    (Lib.run (System.step config) s later).work = 0 ∧
    s.authority.Winds (Lib.run (System.step config) s later).authority := by
  induction hwork : s.work using Nat.strong_induction_on generalizing s with
  | _ n ih =>
    by_cases hzero : ∀ t ∈ s.tasks, t.phase.work = 0
    · refine ⟨[], fun st hst => (by cases hst), ?_, .of_requests rfl⟩
      exact List.sum_eq_zero fun w hw => by
        obtain ⟨t, ht, rfl⟩ := List.mem_map.mp hw
        exact hzero t ht
    · simp only [not_forall] at hzero
      obtain ⟨t, ht, hbusy⟩ := hzero
      obtain ⟨i, hi⟩ := List.mem_iff_getElem?.mp ht
      let s' : System := s.step config (.advance i .yes now)
      have hs' : s' = ⟨(s.advance t .yes now).1, s.tasks.set i (s.advance t .yes now).2⟩ := by
        simp only [s', step, hi]
      have hless : s'.work < n := by
        rw [← hwork, hs']
        exact sum_set_lt hi (advance_work hbusy)
      obtain ⟨later, hlater, hdone, hwinds⟩ := ih s'.work hless s' rfl
      refine ⟨.advance i .yes now :: later, ?_, hdone, Authority.Winds.trans ?_ hwinds⟩
      · intro st hst
        rcases List.mem_cons.mp hst with rfl | hst
        · exact ⟨i, rfl⟩
        · exact hlater st hst
      · rw [hs']
        exact advance_winds

/-! ## One release -/

/-- The records of a request that a phase does not come to are final. -/
def Covers (a : Authority) (digest : Text) (phase : Phase) : Prop :=
  ∀ c ∈ a.records.entries, c.key.intentDigest = digest → c.state.isFinal = true ∨ c.key ∈ phase.keys

/-- A phase of a task that no other one is in the way of. -/
def Runs : Phase → Prop
  | .joining _ _ | .done _ => False
  | .finishing _ released _ => released = true
  | _ => True

/-- The task at `n` is the only one under way, and releases the request of `binding`. -/
structure Releasing (cap : Nat) (s : System) (n : Nat) (binding : Binding) (leaseId : Text)
    (t : Task) : Prop where
  others : ∀ i t', s.tasks[i]? = some t' → i ≠ n → t'.phase.work = 0
  task : s.tasks[n]? = some t
  kind : t.kind = .intent binding leaseId
  v3 : s.authority.V3Sound cap
  request : ∃ r, s.authority.requests.get? binding.intentDigest = some r ∧ r.binding = binding ∧
    r.state = .releasePending ∧ r.releaseLeaseId = some leaseId ∧ r.fanoutComplete = true ∧
    r.Consistent
  covers : Covers s.authority binding.intentDigest t.phase
  phase : Runs t.phase

theorem covers_pending {a : Authority} (h : Covers a digest (.marking key rest))
    (hnone : a.pendingRecord key = none) : Covers a digest (.next rest) := by
  intro c hc hdigest
  rcases h c hc hdigest with hfinal | hkey
  · exact Or.inl hfinal
  · rcases List.mem_cons.mp hkey with rfl | hrest
    · refine Or.inl (Bool.eq_true_of_not_eq_false fun hpending => ?_)
      rw [Authority.pendingRecord_eq_some.mpr ⟨get?_mem hc, hpending⟩] at hnone
      cases hnone
    · exact Or.inr hrest

theorem covers_put {a : Authority} {c : Record} (h : Covers a digest (.marking c.key rest))
    {phase : Phase} (hphase : rest.map Record.key ⊆ phase.keys)
    (hc : c.state.isFinal = true ∨ c.key ∈ phase.keys) : Covers (a.putRecord c) digest phase := by
  intro e he hdigest
  rcases mem_put.mp he with rfl | ⟨hold, hne⟩
  · exact hc
  · rcases h e hold hdigest with hfinal | hkey
    · exact Or.inl hfinal
    · rcases List.mem_cons.mp hkey with hsame | hrest
      · exact absurd hsame hne
      · exact Or.inr (hphase hrest)

section Release

variable {cap n : Nat} {binding : Binding} {leaseId : Text} {t : Task} {now : Int}

theorem Releasing.set (h : Releasing cap s n binding leaseId t) {t' : Task}
    (hkind : t'.kind = t.kind) (hv3 : a.V3Sound cap) (hrequests : a.requests = s.authority.requests)
    (hcovers : Covers a binding.intentDigest t'.phase) (hruns : Runs t'.phase) :
    Releasing cap ⟨a, s.tasks.set n t'⟩ n binding leaseId t' where
  others i u hu hne := h.others i u (by rwa [List.getElem?_set_ne (Ne.symm hne)] at hu) hne
  task := List.getElem?_set_self (List.getElem?_eq_some_iff.mp h.task).1
  kind := hkind.trans h.kind
  v3 := hv3
  request := by
    rw [hrequests]
    exact h.request
  covers := hcovers
  phase := hruns

theorem Releasing.not_active (h : Releasing cap s n binding leaseId t)
    (ht : t.phase.active = none) (key : RecordKey) : ¬ s.Active key := by
  rintro ⟨u, hu, hactive⟩
  obtain ⟨i, hi⟩ := List.mem_iff_getElem?.mp hu
  by_cases hin : i = n
  · rw [hin, h.task] at hi
    cases hi
    rw [ht] at hactive
    cases hactive
  · have hwork := h.others i u hi hin
    cases hphase : u.phase <;> rw [hphase] at hactive hwork <;> cases hactive <;> cases hwork

theorem Releasing.complete (h : Releasing cap s n binding leaseId t)
    (hphase : t.phase = .completing) {b : Authority} (hrecords : b.records = s.authority.records)
    (hrequests : b.requests = s.authority.requests) : ∃ r,
      (System.complete b t).1.requests.get? binding.intentDigest = some r ∧ r.state = .released := by
  obtain ⟨r, hr, rfl, hstate, hlease, hfanout, hok⟩ := h.request
  rw [← hrequests] at hr
  have hunresolved : b.unresolved r.binding.intentDigest = [] := by
    rw [Authority.unresolved, hrecords, List.filter_eq_nil_iff]
    intro c hc hopen
    obtain ⟨hdigest, hpending⟩ := of_decide_eq_true hopen
    rcases h.covers c hc hdigest with hfinal | hkey
    · rw [hpending] at hfinal
      cases hfinal
    · rw [hphase] at hkey
      cases hkey
  have hreleased : ({ r with state := .released } : Request).Consistent :=
    hok.out .released r.releaseLeaseId (by simp [hstate]) (Or.inl rfl)
  have hcomplete : b.completeReleaseIntent r.binding leaseId =
      .ok (.stored (b.putRequest { r with state := .released }) ⟨true, []⟩) := by
    have hof (missing : String) : b.requestOf r.binding.intentDigest missing = .ok r := by
      simp only [Authority.requestOf, hr]
    unfold Authority.completeReleaseIntent
    rw [hof, ok_bind, throwIf_neg (by simp), ok_bind, if_neg (by simp [hstate]),
      throwIf_neg (by simp [hstate, hlease]), ok_bind]
    dsimp only
    rw [if_pos ⟨hfanout, hunresolved⟩, checkRequest_ok.mpr ⟨rfl, hreleased⟩]
    rfl
  refine ⟨{ r with state := .released }, ?_, rfl⟩
  simp only [System.complete, h.kind, hcomplete, Authority.after]
  exact get?_put_self

/-- The records after a mark, with a task that goes on to the maker or to its next record. -/
theorem covers_mark {a : Authority} (h : Covers a digest (.marking key rest)) :
    Covers (a.after (.ok (a.markRelease key now))) digest (match (a.markRelease key now).result with
        | some record => .calling record rest
        | none => .next rest) := by
  unfold Authority.markRelease
  split
  · rename_i hnone
    exact covers_pending h hnone
  · rename_i c hc
    obtain ⟨rfl, -, -⟩ := Authority.pendingRecord_key hc
    split
    · exact covers_put (c := { c with state := .expired }) h (List.Subset.refl _) (Or.inl rfl)
    · exact covers_put (c := { c with state := .releasePending }) h (List.subset_cons_self _ _)
        (Or.inr List.mem_cons_self)

theorem covers_finish {a : Authority} (h : Covers a digest (.marking key rest)) :
    Covers (a.after (.ok (a.finishRelease key true))) digest (.next rest) := by
  unfold Authority.finishRelease
  split
  · rename_i hnone
    exact covers_pending h hnone
  · rename_i c hc
    obtain ⟨rfl, -, -⟩ := Authority.pendingRecord_key hc
    exact covers_put (c := { c with state := .released }) h (List.Subset.refl _) (Or.inl rfl)

theorem markRelease_v3 : (a.after (.ok (a.markRelease key now))).v3Requests = a.v3Requests := by
  unfold Authority.markRelease
  split
  · rfl
  · split <;> rfl

theorem finishRelease_v3 {released : Bool} :
    (a.after (.ok (a.finishRelease key released))).v3Requests = a.v3Requests := by
  unfold Authority.finishRelease
  split
  · rfl
  · split <;> rfl

section

variable (h : Releasing config.limits.maxClosedTakeAttempts s n binding leaseId t)
  (hnow : requireTimestamp now "coordinator clock" = .ok now)

include h hnow

/-- Each step of the task that is under way brings the release on, or ends it. -/
theorem Releasing.advance :
    (∃ t', Releasing config.limits.maxClosedTakeAttempts
        (s.step config (.advance n .yes now)) n binding leaseId t' ∧ t'.phase.work < t.phase.work) ∨
      ∃ r, (s.step config (.advance n .yes now)).authority.requests.get? binding.intentDigest =
        some r ∧ r.state = .released := by
  obtain ⟨b, hb⟩ := h.v3.enter_ok hnow
  obtain ⟨hrecords, hrequests, -⟩ := Authority.enter_same hb
  have hbv3 : b.V3Sound config.limits.maxClosedTakeAttempts := by
    simp only [Authority.enter, bind_ok] at hb
    obtain ⟨stamp, -, hexpire⟩ := hb
    exact h.v3.expire hexpire
  have hcovers : Covers b binding.intentDigest t.phase := by
    unfold Covers
    rw [hrecords]
    exact h.covers
  have hstep : s.step config (.advance n .yes now) =
      ⟨(s.advance t .yes now).1, s.tasks.set n (s.advance t .yes now).2⟩ := by
    simp only [step, h.task]
  rw [hstep]
  have hless : t.phase.work ≠ 0 → (s.advance t .yes now).2.phase.work < t.phase.work := advance_work
  obtain ⟨kind, started, unresolved, phase⟩ := t
  cases phase with
  | next rest =>
    refine Or.inl ⟨_, ?_, hless (by simp [Phase.work])⟩
    cases rest with
    | nil => exact h.set rfl h.v3 rfl h.covers trivial
    | cons record rest =>
      have hfree : ¬ s.Active record.key := h.not_active rfl record.key
      simp only [System.advance, if_neg hfree]
      exact h.set rfl h.v3 rfl h.covers trivial
  | joining key rest | done result => exact h.phase.elim
  | calling record rest =>
    exact Or.inl ⟨_, h.set rfl h.v3 rfl h.covers rfl, hless (by simp [Phase.work])⟩
  | marking key rest =>
    refine Or.inl ⟨_, ?_, hless (by simp [Phase.work])⟩
    simp only [System.advance, hb, serialized]
    refine h.set rfl (hbv3.congr markRelease_v3) (Authority.markRelease_requests.trans hrequests)
      (covers_mark hcovers) ?_
    dsimp only
    split <;> trivial
  | finishing key released rest =>
    refine Or.inl ⟨_, ?_, hless (by simp [Phase.work])⟩
    simp only [System.advance, hb, serialized, show released = true from h.phase]
    exact h.set rfl (hbv3.congr finishRelease_v3) (Authority.finishRelease_requests.trans hrequests)
      (covers_finish hcovers) trivial
  | completing =>
    simp only [System.advance, hb, serialized]
    exact Or.inr (h.complete rfl hrecords hrequests)

/-- A release alone comes to its end. -/
theorem Releasing.run : ∃ later, Advances now later ∧
      ∃ r, (Lib.run (System.step config) s later).authority.requests.get? binding.intentDigest =
        some r ∧ r.state = .released := by
  induction hwork : t.phase.work using Nat.strong_induction_on generalizing s t with
  | _ work ih =>
    rcases h.advance hnow with ⟨t', h', hless⟩ | hreleased
    · obtain ⟨later, hlater, hreleased⟩ := ih _ (hwork ▸ hless) h' rfl
      refine ⟨.advance n .yes now :: later, fun st hst => ?_, hreleased⟩
      rcases List.mem_cons.mp hst with rfl | hst
      · exact ⟨n, rfl⟩
      · exact hlater st hst
    · refine ⟨[.advance n .yes now], fun st hst => ?_, hreleased⟩
      rw [List.mem_singleton.mp hst]
      exact ⟨n, rfl⟩

end

end Release

/-! ## The beginning of a release -/

section Begin

variable {r : Request} {input : Binding} {leaseInput leaseId : Text} {now : Int}

/-- The request as a release takes it over, after its time. -/
def prepared (r : Request) : Request :=
  { (if r.fanoutComplete = false then Authority.expirePlans r else r) with state := .releasePending }

structure Leaving (r : Request) (input : Binding) (leaseInput leaseId : Text) (now : Int) : Prop where
  consistent : r.Consistent
  releasing : r.state.isReleasing = true
  lease : r.releaseLeaseId = some leaseId
  binding : requestBinding input = .ok r.binding
  attempt : requireAttemptId leaseInput "releaseLeaseId" = .ok leaseId
  clock : ∀ label, requireTimestamp now label = .ok now
  expired : r.expiresAt ≤ now

theorem prepareReleaseIntent_eq (hr : a.requests.get? r.intentDigest = some r)
    (h : Leaving r input leaseInput leaseId now) :
    (prepared r).Consistent ∧ a.prepareReleaseIntent input leaseInput now =
      .ok (.stored (a.putRequest (prepared r)) ⟨r.binding, leaseId, some (a.records.entries.filter
        fun record => record.key.intentDigest = r.binding.intentDigest)⟩) := by
  obtain ⟨hok, hstate, hlease, hinput, hleaseInput, hnow, hexpired⟩ := h
  have hpending : r.state ≠ .selectionPending ∧ r.state ≠ .released := by
    cases hs : r.state <;> simp_all [RequestState.isReleasing]
  have hprepared : (prepared r).Consistent := by
    have hout := hok.out .releasePending r.releaseLeaseId hpending.1
      (Or.inr ⟨rfl, by rw [hlease]; rfl⟩)
    unfold prepared
    split
    · exact ⟨hout.pending, hout.pendingOnly, hout.selection, hout.ticket, hout.ticketReady,
        hout.funding, hout.releasing, hout.agrees⟩
    · exact hout
  refine ⟨hprepared, ?_⟩
  have hof (missing : String) : a.requestOf r.binding.intentDigest missing = .ok r := by
    simp only [Authority.requestOf, show a.requests.get? r.binding.intentDigest = some r from hr]
  have hcompleted : (if r.expiresAt ≤ now ∧ r.fanoutComplete = false then Authority.expirePlans r
      else r) = if r.fanoutComplete = false then Authority.expirePlans r else r := by
    simp only [hexpired, true_and]
  unfold Authority.prepareReleaseIntent
  rw [hnow, ok_bind, hinput, ok_bind, hleaseInput, ok_bind, hof, ok_bind,
    throwIf_neg (by simp), ok_bind, if_neg hpending.2, throwIf_neg (by simp [hstate, hlease]),
    ok_bind]
  dsimp only
  rw [hcompleted]
  exact (congrArg (· >>= _) (checkRequest_ok.mpr ⟨rfl, hprepared⟩)).trans rfl

theorem startIntent_releasing (hidle : s.work = 0)
    (hv3 : s.authority.V3Sound config.limits.maxClosedTakeAttempts)
    (hr : s.authority.requests.get? r.intentDigest = some r)
    (h : Leaving r input leaseInput leaseId now) :
    ∃ t, Releasing config.limits.maxClosedTakeAttempts
      (s.step config (.releaseIntent input leaseInput now now)) s.tasks.length r.binding leaseId t := by
  obtain ⟨b, hb⟩ := hv3.enter_ok (h.clock "coordinator clock")
  obtain ⟨-, hrequests, -⟩ := Authority.enter_same hb
  have hbv3 : b.V3Sound config.limits.maxClosedTakeAttempts := by
    simp only [Authority.enter, bind_ok] at hb
    obtain ⟨stamp, -, hexpire⟩ := hb
    exact hv3.expire hexpire
  obtain ⟨hprepared, heq⟩ := prepareReleaseIntent_eq (a := b) (hrequests ▸ hr) h
  let records := b.records.entries.filter fun record =>
    record.key.intentDigest = r.binding.intentDigest
  have hstep : s.step config (.releaseIntent input leaseInput now now) =
      s.start (b.putRequest (prepared r)) (.intent r.binding leaseId) now records := by
    simp only [step, begin, hb, startIntent, heq, Outcome.result, Authority.after, records]
  have hbinding : (prepared r).binding = r.binding := by
    unfold prepared
    split <;> rfl
  refine ⟨⟨.intent r.binding leaseId, now, [], .next records⟩, ?_⟩
  rw [hstep]
  refine ⟨fun i t ht hne => ?_, by simp [start], rfl, hbv3.congr rfl, ?_, ?_, trivial⟩
  · have hmem := List.mem_of_getElem? ht
    have hi : i < s.tasks.length := by
      have hlt := (List.getElem?_eq_some_iff.mp ht).1
      simp only [start, List.length_append, List.length_singleton] at hlt
      omega
    refine List.sum_eq_zero_iff.mp hidle _ (List.mem_map.mpr ⟨t, ?_, rfl⟩)
    simp only [start, List.getElem?_append_left hi] at ht
    exact List.mem_of_getElem? ht
  · refine ⟨prepared r, ?_, hbinding, rfl, ?_, ?_, hprepared⟩
    · rw [← hbinding]
      exact get?_put_self
    · unfold prepared
      split <;> exact h.lease
    · unfold prepared
      split
      · rfl
      · rename_i hfanout
        exact Bool.eq_true_of_not_eq_false hfanout
  · intro c hc hdigest
    refine Or.inr (List.mem_map.mpr ⟨c, ?_, rfl⟩)
    exact List.mem_filter.mpr ⟨hc, decide_eq_true hdigest⟩

/-- A request with an exit that is not yet being released takes its lease. -/
theorem acquireReleaseLease_eq (now : Int) (h : a.Sound) (hr : a.requests.get? r.intentDigest = some r)
    (hstate : r.state = .opened ∨ r.state = .selected ∨ r.state = .ticketReady)
    (hinput : requestBinding input = .ok r.binding)
    (hleaseInput : requireAttemptId leaseInput "releaseLeaseId" = .ok leaseId) :
    ({ r with state := .releaseCheck, releaseLeaseId := some leaseId } : Request).Consistent ∧
      a.acquireReleaseLease input leaseInput now = .ok (.stored
        (a.putRequest { r with state := .releaseCheck, releaseLeaseId := some leaseId })
        { r with state := .releaseCheck, releaseLeaseId := some leaseId }) := by
  have hmem := (get?_eq_some.mp hr).1
  have hok : ({ r with state := .releaseCheck, releaseLeaseId := some leaseId } :
      Request).Consistent := by
    refine (h.requests r hmem).consistent.out _ _ ?_ (Or.inr ⟨rfl, rfl⟩)
    rcases hstate with hs | hs | hs <;> simp [hs]
  have hdeals : ¬ a.deals.entries.any (fun deal =>
      deal.binding.intentDigest = r.binding.intentDigest) = true := by
    intro hany
    obtain ⟨d, hd, hdigest⟩ := List.any_eq_true.mp hany
    obtain ⟨q, hq, -, -, hfunded⟩ := h.deals d hd
    have hsame : d.binding.intentDigest = r.intentDigest := of_decide_eq_true hdigest
    rw [hsame, hr] at hq
    cases hq
    rcases hstate with hs | hs | hs <;> simp [hs, RequestState.isFunded] at hfunded
  refine ⟨hok, ?_⟩
  unfold Authority.acquireReleaseLease
  rw [hinput, ok_bind, hleaseInput, ok_bind]
  simp only [show a.requests.get? r.binding.intentDigest = some r from hr]
  rw [throwIf_neg (by simp), ok_bind, if_neg ?_, if_neg ?_, throwIf_neg ?_, ok_bind,
    throwIf_neg hdeals, ok_bind, checkRequest_ok.mpr ⟨rfl, hok⟩]
  · rfl
  all_goals rcases hstate with hs | hs | hs <;> simp [hs, RequestState.isReleasing]

end Begin

end System

/-! ## The way out -/

/-- The states from which an account can let its request go alone. -/
def RequestState.hasExit : RequestState → Bool
  | .opened | .selected | .ticketReady | .releaseCheck | .releasePending => true
  | _ => false

/-- A step of an account that lets its request go, while makers answer. -/
def Step.LetsGo (input : Binding) (leaseInput : Text) (now : Int) (st : Step) : Prop :=
  st = .operation (.acquireReleaseLease input leaseInput now) now ∨
    st = .releaseIntent input leaseInput now now ∨ ∃ task, st = .advance task .yes now

theorem letsGo_of_advances {input : Binding} {leaseInput : Text} {now : Int}
    (h : System.Advances now steps) : ∀ st ∈ steps, st.LetsGo input leaseInput now :=
  fun st hst => Or.inr (Or.inr (h st hst))

section Way

variable {s : System} {config : Config} {r : Request} {input : Binding} {leaseInput leaseId : Text}
  {now : Int}

/-- The way out of a request under its lease, while no task is under way. -/
theorem release_idle (hidle : s.work = 0)
    (hv3 : s.authority.V3Sound config.limits.maxClosedTakeAttempts)
    (hr : s.authority.requests.get? r.intentDigest = some r)
    (h : System.Leaving r input leaseInput leaseId now) :
    ∃ later, (∀ st ∈ later, st.LetsGo input leaseInput now) ∧ ∃ r',
      (run (System.step config) s later).authority.requests.get? r.intentDigest = some r' ∧
        r'.state = .released := by
  obtain ⟨t, ht⟩ := System.startIntent_releasing hidle hv3 hr h
  obtain ⟨later, hlater, hreleased⟩ := ht.run (h.clock _)
  refine ⟨.releaseIntent input leaseInput now now :: later, fun st hst => ?_, hreleased⟩
  rcases List.mem_cons.mp hst with rfl | hst
  · exact Or.inr (Or.inl rfl)
  · exact letsGo_of_advances hlater st hst

/-- The way out of a request with an exit, while no task is under way. -/
theorem exits_idle (hidle : s.work = 0) (hsound : s.authority.Sound) (husable : s.authority.Usable)
    (hv3 : s.authority.V3Sound config.limits.maxClosedTakeAttempts)
    (hr : s.authority.requests.get? r.intentDigest = some r) (hstate : r.state.hasExit = true)
    (hnow : ∀ label, requireTimestamp now label = .ok now) (hexpired : r.expiresAt ≤ now) :
    ∃ input leaseInput later, requestBinding input = .ok r.binding ∧
      (∀ st ∈ later, st.LetsGo input leaseInput now) ∧ ∃ r',
      (run (System.step config) s later).authority.requests.get? r.intentDigest = some r' ∧
        r'.state = .released := by
  have hmem := (get?_eq_some.mp hr).1
  obtain ⟨input, hinput⟩ := (husable r hmem).binding
  by_cases hreleasing : r.state.isReleasing = true
  · have hok := (hsound.requests r hmem).consistent
    obtain ⟨leaseId, hlease⟩ := Option.isSome_iff_exists.mp (hok.releasing hreleasing)
    obtain ⟨leaseInput, hleaseInput⟩ := (husable r hmem).lease leaseId hlease
    obtain ⟨later, hlater, hreleased⟩ := release_idle hidle hv3 hr
      ⟨hok, hreleasing, hlease, hinput, hleaseInput, hnow, hexpired⟩
    exact ⟨input, leaseInput, later, hinput, hlater, hreleased⟩
  · have hfree : r.state = .opened ∨ r.state = .selected ∨ r.state = .ticketReady := by
      cases hs : r.state <;> simp_all [RequestState.hasExit, RequestState.isReleasing]
    let leaseInput : Text := "lease".toList
    have hleaseInput : requireAttemptId leaseInput "releaseLeaseId" = .ok leaseInput := by
      decide +kernel
    obtain ⟨b, hb⟩ := hv3.enter_ok (hnow "coordinator clock")
    obtain ⟨hrecords, hrequests, hdeals⟩ := Authority.enter_same hb
    have henter : Change (anyScope config.limits) s.authority b := Authority.enter_change hb
    have hbsound : b.Sound := hsound.change henter
    obtain ⟨hok, heq⟩ := System.acquireReleaseLease_eq now hbsound (hrequests ▸ hr) hfree
      hinput hleaseInput
    let st : Step := .operation (.acquireReleaseLease input leaseInput now) now
    let leased : Request := { r with state := .releaseCheck, releaseLeaseId := some leaseInput }
    have hstep : s.step config st = ⟨b.putRequest leased, s.tasks⟩ := by
      simp only [st, System.step, System.begin, hb, Authority.apply, heq, Authority.after, leased]
    have hv3' : (s.step config st).authority.V3Sound config.limits.maxClosedTakeAttempts :=
      hv3.changes (System.any_changes s config st)
    have hget : (s.step config st).authority.requests.get? leased.intentDigest = some leased := by
      rw [hstep]
      exact get?_put_self
    obtain ⟨later, hlater, hreleased⟩ := release_idle (s := s.step config st) (r := leased)
      (by rw [hstep]; exact hidle) hv3' hget ⟨hok, rfl, rfl, hinput, hleaseInput, hnow, hexpired⟩
    refine ⟨input, leaseInput, st :: later, hinput, fun st' hst' => ?_, hreleased⟩
    rcases List.mem_cons.mp hst' with rfl | hst'
    · exact Or.inl rfl
    · exact hlater st' hst'

end Way

/-- The request can be released without the acknowledgement of a maker or a ticket. -/
def HasWayOut (steps : List Step) (digest : Text) : Prop :=
  ∃ later, (∀ st ∈ later, ¬ st.Acknowledges) ∧ ∃ r,
    (run (System.step plainConfig) System.empty (steps ++ later)).authority.requests.get? digest =
      some r ∧ r.state = .released

theorem no_wayOut_of_waits
    (h : (run (System.step plainConfig) System.empty steps).authority.Waits digest) :
    ¬ HasWayOut steps digest := by
  rintro ⟨later, hlater, r, hr, hreleased⟩
  rw [run_append] at hr
  exact waits_not_released (waits_run (System.Sound.empty.run steps) hlater h) hr hreleased

theorem no_wayOut_of_funded {r : Request}
    (hr : (run (System.step plainConfig) System.empty steps).authority.requests.get? digest = some r)
    (hfunded : r.state.isFunded = true) : ¬ HasWayOut steps digest := by
  rintro ⟨later, -, q, hq, hreleased⟩
  obtain ⟨r', hr', -, hnot, -⟩ :=
    ((System.Sound.empty.run steps).excludes later).requests digest r hr
  rw [run_append, hr'] at hq
  cases hq
  exact hnot hfunded hreleased

/-- A request whose selection the maker has not acknowledged. -/
def pendingSteps : List Step := selectSteps.take 3

/-- A request whose ticket was not produced. -/
def ticketSteps : List Step :=
  selectSteps ++ [.operation (.authorizeFundingTicket sampleDeal "attempt".toList sampleTerms.terms) 14]

/-- A request whose funding is seen while its release is checked. -/
def observedSteps : List Step :=
  selectSteps ++ [.operation (.acquireReleaseLease sampleBinding "lease".toList 14) 14,
    .operation (.observeFundedDuringRelease sampleBinding "lease".toList) 15]

end App20.Coordinator
