import App20.Coordinator.Exclusions
import App20.Coordinator.Journal
import App20.Coordinator.TakeSoundness

/-!
# Take attempts over whole lives

Lives of the coordinator: steps in any order, and restarts that read the journal again. What a step does to
a v3 request is said once (`live_v3`): it may expire, and then an operation of v3 requests may move it.

* `V3Follows.life`: what stays of a v3 request.
* `takes`: attempts over a life.
-/

namespace App20.Coordinator

open App20.Lib App20.Domain
open App20.Reservation (maxSafeInteger)
open Relation (ReflTransGen)

/-! ## Lives -/

/-- A step of the coordinator, or a restart. -/
inductive LifeStep where
  | step (st : Step)
  | reopen (clock : Int)

def Step.clock : Step → Int
  | .operation _ clock => clock
  | .register _ clock _ => clock
  | .releaseLosers _ _ clock => clock
  | .releaseIntent _ _ _ clock => clock
  | .releaseSelected _ _ clock => clock
  | .recover _ clock => clock
  | .advance _ _ clock => clock

def LifeStep.clock : LifeStep → Int
  | .step st => st.clock
  | .reopen clock => clock

def V3Operation.asStep (op : V3Operation) (clock : Int) : LifeStep := .step (.operation (.v3 op) clock)

/-- A restart ends the tasks. Where the journal cannot be opened it stays as it is. -/
def System.live (config : Config) (s : System) : LifeStep → System
  | .step st => s.step config st
  | .reopen clock =>
    match (s.authority.journal config.localeCompare).reopen config.limits clock with
    | .ok a => ⟨a, []⟩
    | .error _ => ⟨s.authority, []⟩

def lived (config : Config) (steps : List LifeStep) : System :=
  run (System.live config) System.empty steps

/-! ## One step of a life -/

def V3Request.Expires (r r' : V3Request) : Prop :=
  r' = r ∨ ∃ stamp, r.Due stamp ∧ r' = r.expireAt stamp

theorem V3Request.Sound.expires {cap : Nat} {r r' : V3Request} (h : r.Sound cap)
    (hexpires : r.Expires r') : r'.Sound cap := by
  rcases hexpires with rfl | ⟨stamp, hdue, rfl⟩
  · exact h
  · have hexpire : r.expire stamp = .ok (r.expireAt stamp) := by
      rw [V3Request.expire, if_pos hdue]
      exact checkV3Request_ok.mpr ⟨rfl, h.expireAt hdue⟩
    exact h.of_expire hexpire

theorem V3Request.Expires.trans {r q r' : V3Request} (h : r.Expires q) (h' : q.Expires r') :
    r.Expires r' := by
  rcases h with rfl | ⟨stamp, hdue, rfl⟩
  · exact h'
  · rcases h' with rfl | ⟨stamp', hdue', rfl⟩
    · exact Or.inr ⟨stamp, hdue, rfl⟩
    · cases hdue'.1

namespace Authority

variable {a b : Authority} {limits : Limits} {scope : Scope} {op : V3Operation} {digest : Text}
  {r : V3Request}

/-- Every v3 request is as it was, or expired. -/
structure Ages (a b : Authority) : Prop where
  kept : ∀ digest r, a.v3Requests.get? digest = some r →
    ∃ r', b.v3Requests.get? digest = some r' ∧ r.Expires r'
  old : ∀ digest, a.v3Requests.get? digest = none → b.v3Requests.get? digest = none

theorem Ages.of_same (h : ∀ digest, b.v3Requests.get? digest = a.v3Requests.get? digest) :
    a.Ages b where
  kept digest r hr := ⟨r, (h digest).trans hr, Or.inl rfl⟩
  old digest hnone := (h digest).trans hnone

theorem Ages.trans {c : Authority} (h : a.Ages b) (h' : b.Ages c) : a.Ages c where
  kept digest r hr := by
    obtain ⟨q, hq, hexpires⟩ := h.kept digest r hr
    obtain ⟨r', hr', hexpires'⟩ := h'.kept digest q hq
    exact ⟨r', hr', hexpires.trans hexpires'⟩
  old digest hnone := h'.old digest (h.old digest hnone)

/-- The expiry of all that is due. -/
theorem expireV3Requests_get? {stamp : Int} (h : a.expireV3Requests stamp = .ok b) (digest : Text) :
    (a.v3Requests.get? digest = none → b.v3Requests.get? digest = none) ∧
      ∀ r, a.v3Requests.get? digest = some r →
        ∃ r', r.expire stamp = .ok r' ∧ b.v3Requests.get? digest = some r' := by
  simp only [expireV3Requests, bind_ok, pure_ok] at h
  obtain ⟨requests, hrequests, rfl⟩ := h
  exact Table.mapM_ok (fun x y => V3Request.expire_key) hrequests digest

theorem Ages.expire {stamp : Int} (h : a.expireV3Requests stamp = .ok b) : a.Ages b where
  kept digest r hr := by
    obtain ⟨r', hr', hget⟩ := (expireV3Requests_get? h digest).2 r hr
    refine ⟨r', hget, ?_⟩
    rcases V3Request.expire_ok hr' with ⟨rfl, -⟩ | ⟨rfl, hdue, -⟩
    · exact Or.inl rfl
    · exact Or.inr ⟨stamp, hdue, rfl⟩
  old digest := (expireV3Requests_get? h digest).1

theorem Ages.changes (htakes : ∀ op, ¬ scope.takes op) (h : ReflTransGen (Change scope) a b) :
    a.Ages b := by
  induction h with
  | refl => exact .of_same fun _ => rfl
  | tail _ hchange ih =>
    refine ih.trans ?_
    cases change_progress hchange with
    | same hsame => exact .of_same fun _ => by rw [hsame]
    | change hop => exact absurd hop (htakes _)
    | expire hexpire => exact .expire hexpire

/-- What a journal is read as has the v3 requests that were written. -/
theorem Ages.reopen {localeCompare : Text → Text → Ordering} {clock : Int}
    (h : (a.journal localeCompare).reopen limits clock = .ok b) : a.Ages b := by
  simp only [Journal.reopen, enter, bind_ok] at h
  obtain ⟨c, hc, stamp, -, hexpire⟩ := h
  have hperm : c.v3Requests.entries.Perm a.v3Requests.entries := by
    rw [Journal.read_v3Requests hc]
    exact perm_sort _ _
  exact (Ages.of_same fun digest => Table.get?_perm hperm digest).trans (.expire hexpire)

theorem V3Change.moves_of (h : V3Change limits op a b) (hr : a.v3Requests.get? digest = some r) :
    ∃ r', b.v3Requests.get? digest = some r' ∧
      (r' = r ∨ V3Move limits.maxClosedTakeAttempts op r r' ∧ r'.Consistent) := by
  cases h with
  | @begins q hnew hrfq hstate hclosed hok =>
    refine ⟨r, (Table.get?_put_of_ne fun hkey => ?_).trans hr, Or.inl rfl⟩
    rw [hkey, hnew] at hr
    cases hr
  | @moves q q' hq hmove hok =>
    by_cases hkey : digest = q'.rfqDigest
    · rw [hkey, hmove.key.1, hq] at hr
      cases hr
      exact ⟨q', hkey ▸ Table.get?_put_self, Or.inr ⟨hmove, hok⟩⟩
    · exact ⟨r, (Table.get?_put_of_ne hkey).trans hr, Or.inl rfl⟩

theorem V3Change.begins_of (h : V3Change limits op a b) (hnone : a.v3Requests.get? digest = none)
    (hr : b.v3Requests.get? digest = some r) : r.state = .opened ∧ r.Consistent := by
  cases h with
  | @begins q hnew hrfq hstate hclosed hok =>
    rcases Table.get?_put_eq_some.mp hr with ⟨rfl, -⟩ | ⟨hold, -⟩
    · exact ⟨hstate, hok⟩
    · rw [hnone] at hold
      cases hold
  | @moves q q' hq hmove hok =>
    rcases Table.get?_put_eq_some.mp hr with ⟨rfl, hkey⟩ | ⟨hold, -⟩
    · rw [← hkey, hmove.key.1, hq] at hnone
      cases hnone
    · rw [hnone] at hold
      cases hold

end Authority

/-- What a step of a life does to a v3 request: it may expire, and an operation may move it. -/
def Lives (config : Config) (st : LifeStep) (r r' : V3Request) : Prop :=
  ∃ q : V3Request, r.Expires q ∧ (r' = q ∨ ∃ op clock, st = op.asStep clock ∧ ¬ q.Due clock ∧
    V3Move config.limits.maxClosedTakeAttempts op q r' ∧ r'.Consistent)

namespace System

variable {s : System} {config : Config} {st : LifeStep} {digest : Text} {r : V3Request}

theorem live_ages (hst : ∀ (op : V3Operation) clock, st ≠ op.asStep clock) :
    s.authority.Ages (s.live config st).authority := by
  cases st with
  | step st =>
    let scope : Scope := ⟨config.limits, fun _ => True, fun _ => True, True, True, fun _ => False⟩
    have hpermitted : st.Permitted scope s.authority := by
      cases st with
      | operation performed clock =>
        refine ⟨fun _ _ => trivial, fun _ => trivial, fun _ => trivial, fun op hop => ?_⟩
        exact hst op clock (by rw [hop]; rfl)
      | _ => trivial
    exact .changes (fun _ hop => hop) (step_changes rfl hpermitted fun _ _ => trivial)
  | reopen clock =>
    simp only [live]
    split
    · rename_i a ha
      exact .reopen ha
    · exact .of_same fun _ => rfl

/-- An operation of v3 requests comes after the expiry of what is due. -/
theorem live_operation {op : V3Operation} {clock : Int} :
    (s.live config (op.asStep clock)).authority = s.authority ∨ ∃ b,
      s.authority.expireV3Requests clock = .ok b ∧
        ((s.live config (op.asStep clock)).authority = b ∨
          Authority.V3Change config.limits op b (s.live config (op.asStep clock)).authority) := by
  simp only [live, V3Operation.asStep, step, begin]
  split
  · exact Or.inl rfl
  · rename_i b hb
    refine Or.inr ⟨b, ?_, ?_⟩
    · simp only [Authority.enter, bind_ok] at hb
      obtain ⟨stamp, hstamp, hb⟩ := hb
      unfold requireTimestamp at hstamp
      split at hstamp
      · cases hstamp
      · cases hstamp
        exact hb
    · simp only [Authority.apply]
      cases hop : b.applyV3 config op with
      | error reason => exact Or.inl rfl
      | ok outcome =>
        cases outcome with
        | kept result => exact Or.inl rfl
        | stored next result => exact Or.inr (Authority.applyV3_ok hop)

theorem live_v3 (hr : s.authority.v3Requests.get? digest = some r) :
    ∃ r', (s.live config st).authority.v3Requests.get? digest = some r' ∧ Lives config st r r' := by
  by_cases hst : ∃ op clock, st = V3Operation.asStep op clock
  · obtain ⟨op, clock, rfl⟩ := hst
    rcases live_operation (s := s) with
      hsame | ⟨b, hexpire, hb⟩
    · exact ⟨r, hsame ▸ hr, r, Or.inl rfl, Or.inl rfl⟩
    · obtain ⟨q, hq, hget⟩ := (Authority.expireV3Requests_get? hexpire digest).2 r hr
      have hexpires : r.Expires q ∧ ¬ q.Due clock := by
        rcases V3Request.expire_ok hq with ⟨rfl, hdue⟩ | ⟨rfl, hdue, -⟩
        · exact ⟨Or.inl rfl, hdue⟩
        · exact ⟨Or.inr ⟨clock, hdue, rfl⟩, fun hagain => by cases hagain.1⟩
      rcases hb with hsame | hchange
      · exact ⟨q, hsame ▸ hget, q, hexpires.1, Or.inl rfl⟩
      · obtain ⟨r', hr', hmoves⟩ := hchange.moves_of hget
        refine ⟨r', hr', q, hexpires.1, ?_⟩
        rcases hmoves with rfl | ⟨hmove, hok⟩
        · exact Or.inl rfl
        · exact Or.inr ⟨op, clock, rfl, hexpires.2, hmove, hok⟩
  · obtain ⟨r', hr', hexpires⟩ := (live_ages (s := s)
      fun op clock heq => hst ⟨op, clock, heq⟩).kept digest r hr
    exact ⟨r', hr', r', hexpires, Or.inl rfl⟩

theorem live_new (hnone : s.authority.v3Requests.get? digest = none)
    (hr : (s.live config st).authority.v3Requests.get? digest = some r) :
    r.state = .opened ∧ r.Consistent := by
  by_cases hst : ∃ op clock, st = V3Operation.asStep op clock
  · obtain ⟨op, clock, rfl⟩ := hst
    rcases live_operation (s := s) with
      hsame | ⟨b, hexpire, hb⟩
    · rw [hsame, hnone] at hr
      cases hr
    · have hnone' := (Authority.expireV3Requests_get? hexpire digest).1 hnone
      rcases hb with hsame | hchange
      · rw [hsame, hnone'] at hr
        cases hr
      · exact hchange.begins_of hnone' hr
  · rw [(live_ages (s := s) fun op clock heq => hst ⟨op, clock, heq⟩).old digest hnone] at hr
    cases hr

/-! ## Lives keep the invariant -/

theorem live_sound (h : s.authority.V3Sound config.limits.maxClosedTakeAttempts) :
    (s.live config st).authority.V3Sound config.limits.maxClosedTakeAttempts := by
  cases st with
  | step st =>
    exact h.changes (any_changes s config st)
  | reopen clock =>
    simp only [live]
    split
    · rename_i b hb
      simp only [Journal.reopen, Authority.enter, bind_ok] at hb
      obtain ⟨c, hc, stamp, -, hexpire⟩ := hb
      have hread : c.V3Sound config.limits.maxClosedTakeAttempts := by
        refine h.mono fun r hr => ?_
        rw [Journal.read_v3Requests hc] at hr
        exact mem_sort.mp hr
      exact hread.expire hexpire
    · exact h

theorem lived_sound {steps : List LifeStep} :
    (lived config steps).authority.V3Sound config.limits.maxClosedTakeAttempts :=
  run_invariant (I := fun s : System => s.authority.V3Sound config.limits.maxClosedTakeAttempts)
    (fun _ _ => live_sound) steps Authority.V3Sound.empty

end System

/-! ## What stays of a v3 request -/

/-- What stays of a v3 request: its identity, what is journalled of its makers, its closed attempts, its
attempt with what is known of it until it is closed, and its end. -/
structure V3Follows (r r' : V3Request) : Prop where
  digest : r'.rfqDigest = r.rfqDigest
  binding : r'.binding = r.binding
  times : r'.createdAt = r.createdAt ∧ r'.admittedAt = r.admittedAt ∧ r'.expiresAt = r.expiresAt
  market : r'.market = r.market
  makers : r'.makerPlans.map V3MakerPlan.makerId = r.makerPlans.map V3MakerPlan.makerId
  outcomes : ∀ plan ∈ r.makerPlans, plan.outcome.isPlanned = false → plan ∈ r'.makerPlans
  fanout : r.fanoutComplete = true → r'.fanoutComplete = true
  transcript : ∀ digest ∈ r.transcriptDigest, r'.transcriptDigest = some digest
  closed : r.closedTakeAttempts <+: r'.closedTakeAttempts
  attempt : ∀ attempt expected, Authority.Holds r attempt expected →
    Authority.Holds r' attempt expected ∧
        (∀ hash ∈ r.takeTransactionHash, r'.takeTransactionHash = some hash) ∧
        (r.Unknown → r'.Unknown ∨ r'.state = .taken) ∨ ⟨attempt, expected⟩ ∈ r'.closedTakeAttempts
  taken : r.state = .taken → r'.state = .taken ∧ r'.takeAttemptId = r.takeAttemptId ∧
    r'.expected = r.expected
  ended : r.state.isActive = false → r'.state.isActive = false ∧
    ∀ attempt ∈ r'.takeAttemptId, r.takeAttemptId = some attempt

namespace V3Follows

variable {cap : Nat} {op : V3Operation} {r r' r'' : V3Request}

theorem refl : V3Follows r r where
  digest := rfl
  binding := rfl
  times := ⟨rfl, rfl, rfl⟩
  market := rfl
  makers := rfl
  outcomes _ hplan _ := hplan
  fanout := id
  transcript _ hdigest := hdigest
  closed := List.prefix_rfl
  attempt _ _ hheld := Or.inl ⟨hheld, fun _ hhash => hhash, Or.inl⟩
  taken htaken := ⟨htaken, rfl, rfl⟩
  ended hended := ⟨hended, fun _ hattempt => hattempt⟩

theorem trans (h : V3Follows r r') (h' : V3Follows r' r'') : V3Follows r r'' where
  digest := h'.digest.trans h.digest
  binding := h'.binding.trans h.binding
  times := ⟨h'.times.1.trans h.times.1, h'.times.2.1.trans h.times.2.1,
    h'.times.2.2.trans h.times.2.2⟩
  market := h'.market.trans h.market
  makers := h'.makers.trans h.makers
  outcomes plan hplan hjournalled := h'.outcomes plan (h.outcomes plan hplan hjournalled) hjournalled
  fanout hcomplete := h'.fanout (h.fanout hcomplete)
  transcript digest hdigest := h'.transcript digest (h.transcript digest hdigest)
  closed := h.closed.trans h'.closed
  attempt attempt expected hheld := by
    rcases h.attempt attempt expected hheld with ⟨hheld', hhash, hunknown⟩ | hclosed
    · rcases h'.attempt attempt expected hheld' with ⟨hheld'', hhash', hunknown'⟩ | hclosed
      · refine Or.inl ⟨hheld'', fun hash hr => hhash' hash (hhash hash hr), fun hr => ?_⟩
        rcases hunknown hr with hr' | htaken
        · exact hunknown' hr'
        · exact Or.inr (h'.taken htaken).1
      · exact Or.inr hclosed
    · exact Or.inr (h'.closed.subset hclosed)
  taken htaken := by
    obtain ⟨htaken', hattempt, hexpected⟩ := h.taken htaken
    obtain ⟨htaken'', hattempt', hexpected'⟩ := h'.taken htaken'
    exact ⟨htaken'', hattempt'.trans hattempt, hexpected'.trans hexpected⟩
  ended hended := by
    obtain ⟨hended', hattempt⟩ := h.ended hended
    obtain ⟨hended'', hattempt'⟩ := h'.ended hended'
    exact ⟨hended'', fun attempt hr => hattempt attempt (hattempt' attempt hr)⟩

theorem expires (h : r.Expires r') : V3Follows r r' := by
  rcases h with rfl | ⟨stamp, hdue, rfl⟩
  · exact refl
  · refine { @refl r with
      attempt := fun attempt expected hheld => Or.inl ⟨hheld, fun _ hhash => hhash, fun hunknown => ?_⟩
      taken := fun htaken => ?_
      ended := fun hended => ?_ }
    · rcases hunknown with hunknown | ⟨hexpired, -⟩
      · exact Or.inl (Or.inr ⟨rfl, congrArg some hunknown⟩)
      · have hactive := hdue.1
        rw [hexpired] at hactive
        cases hactive
    · have hactive := hdue.1
      rw [htaken] at hactive
      cases hactive
    · rw [hdue.1] at hended
      cases hended

theorem mem_setOutcome {plans : List V3MakerPlan} (hnodup : (plans.map V3MakerPlan.makerId).Nodup)
    {makerId : Text} {plan : V3MakerPlan} (hplan : Authority.v3PlanOf plans makerId = some plan)
    (hplanned : plan.outcome.isPlanned = true) {result : MakerOutcome} {other : V3MakerPlan}
    (hother : other ∈ plans) (hjournalled : other.outcome.isPlanned = false) :
    other ∈ Authority.setOutcome plans makerId result := by
  have hmaker : other.makerId ≠ makerId := by
    intro hsame
    have hfound := List.find?_some hplan
    have hid : plan.makerId = makerId := of_decide_eq_true hfound
    have heq : other = plan := List.inj_on_of_nodup_map hnodup hother
      (List.mem_of_find?_eq_some hplan) (hsame.trans hid.symm)
    rw [heq, hplanned] at hjournalled
    cases hjournalled
  exact List.mem_map.mpr ⟨other, hother, if_neg hmaker⟩

theorem setOutcome_makers {plans : List V3MakerPlan} {makerId : Text} {result : MakerOutcome} :
    (Authority.setOutcome plans makerId result).map V3MakerPlan.makerId =
      plans.map V3MakerPlan.makerId := by
  rw [Authority.setOutcome, List.map_map]
  apply List.map_congr_left
  intro plan _
  simp only [Function.comp_apply]
  split
  · rename_i hmaker
    exact hmaker.symm
  · rfl

theorem expired_of_ended (hended : r.state.isActive = false) (htaken : r.state ≠ .taken) :
    r.state = .expired := by
  cases hs : r.state with
  | expired => rfl
  | taken => exact absurd hs htaken
  | _ =>
    rw [hs] at hended
    cases hended

theorem unknown {hash : Option Text} (htaken : r.state ≠ .taken) (hhash : r.Hashes hash) :
    V3Follows r (r.unknown hash) := by
  unfold V3Request.unknown
  split
  · rename_i hexpired
    exact { @refl r with
      attempt := fun _ _ hheld => Or.inl ⟨hheld, hhash, fun _ => Or.inl (Or.inr ⟨hexpired, rfl⟩)⟩ }
  · rename_i hexpired
    exact { @refl r with
      attempt := fun _ _ hheld => Or.inl ⟨hheld, hhash, fun _ => Or.inl (Or.inl rfl)⟩
      taken := fun hr => absurd hr htaken
      ended := fun hended => absurd (expired_of_ended hended htaken) hexpired }

theorem move (h : V3Move cap op r r') (hr : r.Sound cap) : V3Follows r r' := by
  cases h with
  | outcome hplan hplanned =>
    exact { @refl r with
      makers := setOutcome_makers
      outcomes := fun _ => mem_setOutcome hr.consistent.plans hplan hplanned }
  | fanout => exact { @refl r with fanout := fun _ => rfl }
  | transcript hnone =>
    refine { @refl r with transcript := fun digest hdigest => ?_ }
    rw [hnone] at hdigest
    cases hdigest
  | prepare hop hgiven hstate hclosed hcap =>
    refine { @refl r with
      attempt := fun attempt expected hheld => ?_
      taken := fun htaken => ?_
      ended := fun hended => ?_ }
    · rw [Authority.Holds, (hr.consistent.opened hstate).1] at hheld
      cases hheld.1
    · rw [hstate] at htaken
      cases htaken
    · rw [hstate] at hended
      cases hended
  | unknown hop hgiven hopened htaken hheld hhash => exact unknown htaken hhash
  | @close input attemptId attempt expected hop hgiven htaken hheld hclosed hcap =>
    refine { @refl r with
      closed := List.prefix_append _ _
      attempt := fun attempt' expected' hheld' => Or.inr ?_
      taken := fun hr' => absurd hr' htaken
      ended := fun hended => ⟨?_, fun attempt hattempt => (by cases hattempt)⟩ }
    · have hopened : r.state ≠ .opened := by
        intro hstate
        rw [Authority.Holds, (hr.consistent.opened hstate).1] at hheld'
        cases hheld'.1
      obtain ⟨hattempt, hexpected⟩ := hheld hopened
      rw [Authority.Holds, hattempt, hexpected] at hheld'
      obtain ⟨rfl, rfl⟩ : attempt = attempt' ∧ expected = expected' :=
        ⟨Option.some.inj hheld'.1, Option.some.inj hheld'.2⟩
      exact List.mem_append_right _ List.mem_cons_self
    · simp [V3Request.close, expired_of_ended hended htaken, V3RequestState.isActive]
  | take hop hgiven hopened hheld hhash =>
    exact { @refl r with
      attempt := fun attempt expected hheld' => Or.inl ⟨hheld', hhash, fun _ => Or.inr rfl⟩
      taken := fun _ => ⟨rfl, rfl, rfl⟩
      ended := fun _ => ⟨rfl, fun _ hattempt => hattempt⟩ }

theorem lives {config : Config} {st : LifeStep} (h : Lives config st r r')
    (hr : r.Sound config.limits.maxClosedTakeAttempts) : V3Follows r r' := by
  obtain ⟨q, hexpires, hmoves⟩ := h
  have hq := hr.expires hexpires
  rcases hmoves with rfl | ⟨op, clock, -, -, hmove, -⟩
  · exact expires hexpires
  · exact (expires hexpires).trans (move hmove hq)

end V3Follows

/-! ## Steps of an attempt -/

/-- The attempt and its terms, as they are given. -/
def Names (input : TakeInput) (attemptId attempt : Text) (expected : TakeExpected) : Prop :=
  requireAttemptId attemptId "attemptId" = .ok attempt ∧
    canonicalLocalnetTakeExpected input.expected = .ok expected

/-- How an attempt begins, is taken, or is closed when its outcome is not known. -/
structure TakeStep (st : LifeStep) (r r' : V3Request) : Prop where
  begins : ∀ attempt expected, Authority.Holds r' attempt expected →
    Authority.Holds r attempt expected ∨ ∃ input attemptId clock,
      st = (V3Operation.prepareTake input attemptId).asStep clock ∧
        Names input attemptId attempt expected ∧ clock < r.expiresAt
  taken : r'.state = .taken → r.state = .taken ∨ ∃ input attemptId clock attempt expected,
    st = (V3Operation.observeTaken input attemptId).asStep clock ∧
      Names input attemptId attempt expected ∧ Authority.Holds r attempt expected ∧
      Authority.Holds r' attempt expected
  unknown : ∀ attempt expected, Authority.Holds r attempt expected → r.Unknown →
    Authority.Holds r' attempt expected ∧ (r'.Unknown ∨ r'.state = .taken) ∨
      ∃ input attemptId clock, st = (V3Operation.markTakeAbsent input attemptId).asStep clock ∧
        Names input attemptId attempt expected ∧ ⟨attempt, expected⟩ ∈ r'.closedTakeAttempts

section Steps

variable {cap : Nat} {r q r' : V3Request} {attempt : Text} {expected : TakeExpected}

theorem V3Request.Given.names {input : TakeInput} {attemptId : Text}
    (h : r.Given input attemptId attempt expected) : Names input attemptId attempt expected :=
  ⟨h.attempt, h.exact.terms⟩

theorem V3Request.Expires.holds (h : r.Expires q) :
    Authority.Holds q attempt expected ↔ Authority.Holds r attempt expected := by
  rcases h with rfl | ⟨stamp, hdue, rfl⟩ <;> exact Iff.rfl

theorem V3Request.Expires.taken (h : r.Expires q) (htaken : q.state = .taken) :
    r.state = .taken := by
  rcases h with rfl | ⟨stamp, hdue, rfl⟩
  · exact htaken
  · cases htaken

theorem V3Request.Expires.unknown (h : r.Expires q) (hunknown : r.Unknown) : q.Unknown := by
  rcases h with rfl | ⟨stamp, hdue, rfl⟩
  · exact hunknown
  · rcases hunknown with hunknown | ⟨hexpired, -⟩
    · exact Or.inr ⟨rfl, congrArg some hunknown⟩
    · have hactive := hdue.1
      rw [hexpired] at hactive
      cases hactive

theorem V3Request.unknown_attempt {hash : Option Text} :
    (r.unknown hash).takeAttemptId = r.takeAttemptId ∧ (r.unknown hash).expected = r.expected ∧
      ((r.unknown hash).state = .taken → r.state = .taken) ∧ (r.unknown hash).Unknown := by
  unfold V3Request.unknown
  split
  · rename_i hexpired
    exact ⟨rfl, rfl, id, Or.inr ⟨hexpired, rfl⟩⟩
  · exact ⟨rfl, rfl, fun htaken => (by cases htaken), Or.inl rfl⟩

theorem V3Move.takeStep {op : V3Operation} {clock : Int} (h : V3Move cap op r r')
    (hdue : ¬ r.Due clock) (hsound : r.Sound cap) : TakeStep (op.asStep clock) r r' := by
  cases h with
  | outcome | fanout | transcript =>
    exact ⟨fun _ _ hheld => Or.inl hheld, Or.inl, fun _ _ hheld hunknown =>
      Or.inl ⟨hheld, Or.inl hunknown⟩⟩
  | prepare hop hgiven hstate hclosed hcap =>
    refine ⟨fun attempt expected hheld => Or.inr ?_, fun htaken => (by cases htaken),
      fun attempt expected hheld => ?_⟩
    · obtain ⟨rfl, rfl⟩ : _ = attempt ∧ _ = expected :=
        ⟨Option.some.inj hheld.1, Option.some.inj hheld.2⟩
      refine ⟨_, _, clock, congrArg (V3Operation.asStep · clock) hop, hgiven.names, ?_⟩
      have hactive : r.state.isActive = true := by
        rw [hstate]
        rfl
      exact lt_of_not_ge fun hle => hdue ⟨hactive, hle⟩
    · rw [Authority.Holds, (hsound.consistent.opened hstate).1] at hheld
      cases hheld.1
  | unknown hop hgiven hopened htaken hheld hhash =>
    obtain ⟨hattempt, hexpected, htaken', hunknown'⟩ := V3Request.unknown_attempt (r := r)
    refine ⟨fun attempt expected hheld' => Or.inl ?_, fun hr => Or.inl (htaken' hr),
      fun attempt expected hheld' hunknown => ?_⟩
    · rw [Authority.Holds, hattempt, hexpected] at hheld'
      exact hheld'
    · refine Or.inl ⟨?_, Or.inl hunknown'⟩
      rw [Authority.Holds, hattempt, hexpected]
      exact hheld'
  | close hop hgiven htaken hheld hclosed hcap =>
    refine ⟨fun attempt expected hheld' => (by cases hheld'.1), fun hr => ?_,
      fun attempt expected hheld' hunknown => Or.inr ?_⟩
    · unfold V3Request.close at hr
      dsimp only at hr
      split at hr <;> cases hr
    · rcases hop with ⟨-, hknown⟩ | hop
      · exact absurd hunknown hknown
      · have hopened : r.state ≠ .opened := by
          intro hopened
          rw [Authority.Holds, (hsound.consistent.opened hopened).1] at hheld'
          cases hheld'.1
        obtain ⟨hattempt, hexpected⟩ := hheld hopened
        rw [Authority.Holds, hattempt, hexpected] at hheld'
        obtain ⟨rfl, rfl⟩ : _ = attempt ∧ _ = expected :=
          ⟨Option.some.inj hheld'.1, Option.some.inj hheld'.2⟩
        exact ⟨_, _, clock, congrArg (V3Operation.asStep · clock) hop, hgiven.names,
          List.mem_append_right _ List.mem_cons_self⟩
  | take hop hgiven hopened hheld hhash =>
    refine ⟨fun _ _ hheld' => Or.inl hheld', fun _ => Or.inr ?_, fun _ _ hheld' _ =>
      Or.inl ⟨hheld', Or.inr rfl⟩⟩
    exact ⟨_, _, clock, _, _, congrArg (V3Operation.asStep · clock) hop, hgiven.names, hheld, hheld⟩

theorem Lives.takeStep {config : Config} {st : LifeStep} (h : Lives config st r r')
    (hr : r.Sound config.limits.maxClosedTakeAttempts) : TakeStep st r r' := by
  obtain ⟨q, hexpires, hmoves⟩ := h
  have hq := hr.expires hexpires
  rcases hmoves with rfl | ⟨op, clock, rfl, hdue, hmove, -⟩
  · exact ⟨fun _ _ hheld => Or.inl (hexpires.holds.mp hheld), fun htaken => Or.inl (hexpires.taken htaken),
      fun _ _ hheld hunknown => Or.inl ⟨hexpires.holds.mpr hheld, Or.inl (hexpires.unknown hunknown)⟩⟩
  · obtain ⟨hbegins, htakes, hunknowns⟩ := hmove.takeStep hdue hq
    refine ⟨fun attempt expected hheld => ?_, fun htaken => ?_, fun attempt expected hheld hunknown =>
      hunknowns attempt expected (hexpires.holds.mpr hheld) (hexpires.unknown hunknown)⟩
    · rw [← hexpires.holds, ← (V3Follows.expires hexpires).times.2.2]
      exact hbegins attempt expected hheld
    · rcases htakes htaken with hbefore | ⟨input, attemptId, clock, attempt, expected, hst, hnames,
        hheld, hheld'⟩
      · exact Or.inl (hexpires.taken hbefore)
      · exact Or.inr ⟨input, attemptId, clock, attempt, expected, hst, hnames,
          hexpires.holds.mp hheld, hheld'⟩

end Steps

/-! ## An active attempt can be closed -/

theorem V3Request.Sound.close {cap : Nat} {r : V3Request} (h : r.Sound cap)
    (hcap : cap ≤ maxClosedTakeAttempts) {attempt : Text} {expected : TakeExpected}
    (hheld : Authority.Holds r attempt expected) : (r.close attempt expected).Consistent := by
  have hc := h.consistent
  have hroom := h.room (by rw [hheld.1]; rfl)
  have hnew : attempt ∉ r.closedTakeAttempts.map ClosedTake.attemptId := by
    intro hmem
    obtain ⟨closed, hclosed, hid⟩ := List.mem_map.mp hmem
    have hnone := List.find?_eq_none.mp (h.exclusive attempt hheld.1) closed hclosed
    exact hnone (decide_eq_true hid)
  have hopened : r.state ≠ .expired → (r.close attempt expected).state = .opened := fun hr => if_neg hr
  have hexpired : r.state = .expired → (r.close attempt expected).state = .expired := fun hr => if_pos hr
  refine ⟨hc.cohort, hc.wires, hc.plans, ⟨?_, ?_⟩, hc.admitted, hc.fanout, fun htake => ?_,
    fun _ => ⟨rfl, rfl, rfl⟩, fun hstate => ?_, fun hstate => ?_⟩
  · rw [V3Request.close, List.length_append]
    exact Nat.le_trans hroom hcap
  · rw [V3Request.close, List.map_append, List.nodup_append]
    refine ⟨hc.closed.2, List.nodup_singleton _, fun id hid id' hid' heq => hnew ?_⟩
    rw [List.map_singleton, List.mem_singleton] at hid'
    rw [← show id = attempt from heq.trans hid']
    exact hid
  · by_cases hr : r.state = .expired
    · rw [hexpired hr] at htake
      cases htake
    · rw [hopened hr] at htake
      cases htake
  · have hr : r.state = .expired := by
      by_contra hr
      rw [hopened hr] at hstate
      cases hstate
    refine ⟨(hc.expired hr).1, .opened, if_pos hr, rfl, fun _ => ⟨rfl, rfl, rfl⟩,
      fun hne => absurd rfl hne, fun hpending => (by cases hpending)⟩
  · have hr : r.state ≠ .expired := fun hr => hstate (hexpired hr)
    exact ⟨(hc.unexpired hr).1, (if_neg hr).trans (hc.unexpired hr).2⟩

namespace Authority

variable {a : Authority} {limits : Limits} {r : V3Request}

theorem V3Sound.owner {cap : Nat} (h : a.V3Sound cap) (hr : r ∈ a.v3Requests.entries) :
    (a.v3Owner r.binding.rfqId).bind a.v3Requests.get? = some r := by
  unfold v3Owner
  cases hfind : a.v3Requests.entries.find? fun q => q.binding.rfqId = r.binding.rfqId with
  | none =>
    have hne := List.find?_eq_none.mp hfind r hr
    simp at hne
  | some q =>
    have hq := List.mem_of_find?_eq_some hfind
    have hsome := List.find?_some hfind
    rw [h.rfqs q hq r hr (of_decide_eq_true hsome)]
    exact Table.get?_mem hr

theorem V3Sound.markTakeAbsent_ok (h : a.V3Sound limits.maxClosedTakeAttempts)
    (hcap : limits.maxClosedTakeAttempts ≤ maxClosedTakeAttempts) (hr : r ∈ a.v3Requests.entries)
    {input : TakeInput} {attemptId attempt : Text} {expected : TakeExpected}
    (hheld : Holds r attempt expected) (htaken : r.state ≠ .taken)
    (hgiven : r.Given input attemptId attempt expected) :
    a.markTakeAbsent limits input attemptId =
      .ok (.stored (a.putV3Request (r.close attempt expected)) (r.close attempt expected)) := by
  have hsound := h.requests r hr
  have hopened : r.state ≠ .opened := by
    intro hopened
    rw [Holds, (hsound.consistent.opened hopened).1] at hheld
    cases hheld.1
  have hroom := hsound.room (by rw [hheld.1]; rfl)
  have hcheck := checkV3Request_ok.mpr ⟨rfl, hsound.close hcap hheld⟩
  have hclosed := hsound.exclusive attempt hheld.1
  simp only [markTakeAbsent, exactV3Take_ok.mpr ⟨h.owner hr, hgiven.exact⟩, hgiven.attempt,
    ok_bind, hclosed]
  rw [throwIf_neg (by simp [hopened, htaken, hheld])]
  simp only [ok_bind, closeTake]
  rw [throwIf_neg (by omega)]
  simp only [ok_bind]
  exact bind_ok.mpr ⟨_, hcheck, rfl⟩

end Authority

/-- At any time an attempt that is not taken can be closed. -/
def System.Closable (config : Config) (s : System) : Prop :=
  ∀ digest r attempt expected, s.authority.v3Requests.get? digest = some r →
    Authority.Holds r attempt expected → r.state ≠ .taken →
      ∀ clock, 0 < clock → clock ≤ maxSafeInteger → ∃ input attemptId r',
        (s.live config ((V3Operation.markTakeAbsent input attemptId).asStep
          clock)).authority.v3Requests.get? digest = some r' ∧
        r'.takeAttemptId = none ∧ ⟨attempt, expected⟩ ∈ r'.closedTakeAttempts

theorem System.closable {s : System} {config : Config}
    (h : s.authority.V3Sound config.limits.maxClosedTakeAttempts)
    (hcap : config.limits.maxClosedTakeAttempts ≤ maxClosedTakeAttempts) : s.Closable config := by
  intro digest r attempt expected hr hheld htaken clock hpositive hsafe
  have hstamp : requireTimestamp clock "coordinator clock" = .ok clock := by
    unfold requireTimestamp
    rw [if_neg (by omega)]
  obtain ⟨b, hb⟩ := h.expire_ok clock
  have henter : s.authority.enter clock = .ok b := by
    simp only [Authority.enter, hstamp, ok_bind, hb]
  obtain ⟨q, hget, hexpires⟩ := (Authority.Ages.expire hb).kept digest r hr
  obtain ⟨hmem, hkey⟩ := Table.get?_eq_some.mp hget
  have hbsound := h.expire hb
  have hqheld := hexpires.holds.mpr hheld
  obtain ⟨input, attemptId, expected', hholds, hgiven⟩ := (hbsound.requests q hmem).holds hqheld.1
  obtain rfl : expected' = expected := Option.some.inj (hholds.2.symm.trans hqheld.2)
  have hclose := hbsound.markTakeAbsent_ok hcap hmem hqheld
    (fun hq => htaken (hexpires.taken hq)) hgiven
  refine ⟨input, attemptId, q.close attempt expected', ?_, rfl,
    List.mem_append_right _ List.mem_cons_self⟩
  simp only [System.live, V3Operation.asStep, System.step, System.begin, henter, Authority.apply,
    Authority.applyV3, hclose, Authority.after]
  rw [← hkey]
  exact Table.get?_put_self

/-! ## Attempts over a life -/

/-- An RFQ has one attempt at most. -/
def Authority.OneTake (a : Authority) : Prop :=
  ∀ r ∈ a.v3Requests.entries, ∀ r' ∈ a.v3Requests.entries, r.binding.rfqId = r'.binding.rfqId →
    ∀ attempt expected attempt' expected', Authority.Holds r attempt expected →
      Authority.Holds r' attempt' expected' → attempt = attempt' ∧ expected = expected'

def V3Request.StaysClosed (r r' : V3Request) : Prop :=
  ∀ closed ∈ r.closedTakeAttempts, closed ∈ r'.closedTakeAttempts ∧
    r'.takeAttemptId ≠ some closed.attemptId ∧
    ∀ closed' ∈ r'.closedTakeAttempts, closed'.attemptId = closed.attemptId → closed' = closed

theorem V3Follows.staysClosed {cap : Nat} {r r' : V3Request} (h : V3Follows r r')
    (hr : r'.Sound cap) : r.StaysClosed r' := by
  intro closed hclosed
  have hmem := h.closed.subset hclosed
  refine ⟨hmem, fun hactive => ?_, fun closed' hclosed' hid =>
    List.inj_on_of_nodup_map hr.consistent.closed.2 hclosed' hmem hid⟩
  have hnone := List.find?_eq_none.mp (hr.exclusive closed.attemptId hactive) closed hmem
  simp at hnone

section Lives

variable {config : Config} {s : System} {digest : Text} {r r' : V3Request}

theorem System.follows_run (h : s.authority.V3Sound config.limits.maxClosedTakeAttempts)
    {steps : List LifeStep} (hr : s.authority.v3Requests.get? digest = some r) :
    ∃ r', (run (System.live config) s steps).authority.v3Requests.get? digest = some r' ∧
      V3Follows r r' := by
  induction steps generalizing s r with
  | nil => exact ⟨r, hr, .refl⟩
  | cons st steps ih =>
    obtain ⟨q, hq, hlives⟩ := System.live_v3 hr
    obtain ⟨r', hr', hfollows⟩ := ih (System.live_sound h) hq
    have hsound := h.requests r (Table.get?_eq_some.mp hr).1
    exact ⟨r', hr', (V3Follows.lives hlives hsound).trans hfollows⟩

theorem System.takeStep (h : s.authority.V3Sound config.limits.maxClosedTakeAttempts) {st : LifeStep}
    (hr' : (s.live config st).authority.v3Requests.get? digest = some r') :
    (∃ r, s.authority.v3Requests.get? digest = some r ∧ V3Follows r r' ∧ TakeStep st r r') ∨
      s.authority.v3Requests.get? digest = none ∧ r'.state = .opened ∧ r'.takeAttemptId = none := by
  cases hr : s.authority.v3Requests.get? digest with
  | none =>
    obtain ⟨hstate, hok⟩ := System.live_new hr hr'
    exact Or.inr ⟨rfl, hstate, (hok.opened hstate).1⟩
  | some r =>
    obtain ⟨q, hq, hlives⟩ := System.live_v3 hr
    rw [hr'] at hq
    cases hq
    have hsound := h.requests r (Table.get?_eq_some.mp hr).1
    exact Or.inl ⟨r, rfl, V3Follows.lives hlives hsound, hlives.takeStep hsound⟩

end Lives

/-- A request that expires between two restarts. -/
def restartSteps : List LifeStep :=
  [(V3Operation.begin ⟨sampleDigest '1', sampleBinding, 10, 100, "0x1/0x2".toList, ["maker".toList]⟩
    10).asStep 10, .reopen 50, .reopen 200]

end App20.Coordinator
