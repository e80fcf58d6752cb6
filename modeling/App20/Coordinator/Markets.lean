import App20.Coordinator.Exclusions

/-!
# Market leases

A request holds the lease of its account, chain and market until it is terminal. A terminal request may be
taken back: a released one by a reservation that arrives late, and one whose deal ended when its authority
is quarantined. It then stands beside a request that has begun meanwhile.

* `market_leases`: of two requests that hold one lease, one has been taken back.
-/

namespace App20.Coordinator

open App20.Lib App20.Domain
open Relation (ReflTransGen)

/-- A request as it is when it has been taken back. -/
def Request.Lapsed (r : Request) : Prop :=
  r.state = .releasePending ∧ r.releaseLeaseId.isSome = true ∨ r.state = .authorityQuarantined

def Request.SharesLease (r r' : Request) : Prop :=
  r.market.isSome = true ∧ r.market = r'.market ∧ r.binding.account = r'.binding.account ∧
    r.binding.chainId = r'.binding.chainId

instance (r r' : Request) : Decidable (r.SharesLease r') :=
  inferInstanceAs (Decidable (_ ∧ _ ∧ _ ∧ _))

/-- No two active requests hold one lease. -/
def Authority.OneActive (a : Authority) : Prop :=
  ∀ r ∈ a.requests.entries, ∀ r' ∈ a.requests.entries, r.state.isTerminal = false →
    r'.state.isTerminal = false → r.SharesLease r' → r = r'

/-! ## One request -/

theorem RequestState.unlapsed_of_fundable {state : RequestState}
    (h : state.isFunding = true ∨ state = .funded ∨ state = .releaseCheck) :
    state.isTerminal = false ∧ state ≠ .releasePending ∧ state ≠ .authorityQuarantined := by
  cases state <;> simp_all [isFunding, isTerminal]

/-- An active request that another one comes of. -/
structure Continued (r r' : Request) : Prop where
  binding : r'.binding = r.binding
  market : r'.market = r.market
  active : r.state.isTerminal = false ∧ (r.Lapsed → r'.Lapsed) ∨ r.state.isTerminal = true ∧ r'.Lapsed

variable {r r' : Request} {t : Task} {clock : Int} {steps : List Step} {digest : Text}

theorem Continued.refl (h : r.state.isTerminal = false) : Continued r r :=
  ⟨rfl, rfl, Or.inl ⟨h, id⟩⟩

theorem Continued.lapsed (h : Continued r r') (hactive : r.state.isTerminal = false)
    (hlapsed : r.Lapsed) : r'.Lapsed := by
  rcases h.active with ⟨-, hkept⟩ | ⟨hterminal, -⟩
  · exact hkept hlapsed
  · rw [hactive] at hterminal
    cases hterminal

theorem Continued.of_state (hbinding : r'.binding = r.binding) (hmarket : r'.market = r.market)
    (hactive : r.state.isTerminal = false)
    (hstate : r.state ≠ .releasePending ∧ r.state ≠ .authorityQuarantined) : Continued r r' := by
  refine ⟨hbinding, hmarket, Or.inl ⟨hactive, fun hlapsed => ?_⟩⟩
  exact (hlapsed.elim (fun h => hstate.1 h.1) hstate.2).elim

theorem Move.continued {scope : Scope} {a : Authority} (h : Move scope a r r') (hok : r'.Consistent)
    (hactive : r'.state.isTerminal = false) : Continued r r' := by
  obtain ⟨hbinding, -, hmarket⟩ := h.keeps
  refine ⟨hbinding, hmarket, ?_⟩
  cases h with
  | late hstate => 
    by_cases hterminal : r.state.isTerminal = true
    · exact Or.inr ⟨hterminal, Or.inl ⟨rfl, hok.releasing rfl⟩⟩
    · exact Or.inl ⟨Bool.eq_false_of_not_eq_true hterminal, fun _ => Or.inl ⟨rfl, hok.releasing rfl⟩⟩
  | quarantine hstate =>
    by_cases hterminal : r.state.isTerminal = true
    · exact Or.inr ⟨hterminal, Or.inr rfl⟩
    · exact Or.inl ⟨Bool.eq_false_of_not_eq_true hterminal, fun _ => Or.inr rfl⟩
  | prepareRelease hstate hcompleted =>
    refine Or.inl ⟨?_, fun _ => Or.inl ⟨rfl, hok.releasing rfl⟩⟩
    cases hs : r.state <;> simp_all [RequestState.isReleasing, RequestState.isTerminal]
  | completeReleased | released => cases hactive
  | terminal hfollows =>
    rename_i outcome
    cases outcome <;> cases hactive
  | refuse | respond | complete | close | expirePlans => exact Or.inl ⟨hactive, id⟩
  | ticketReady hpersists hstate | fundingUnknown hstate =>
    refine Or.inl ⟨?_, fun hlapsed => ?_⟩
    · cases hs : r.state <;>
        simp_all [RequestState.isTicket, RequestState.isFunding, RequestState.isTerminal]
    · rcases hlapsed with ⟨hpending, -⟩ | hquarantined <;>
        simp_all [RequestState.isTicket, RequestState.isFunding]
  | lease hid hstate hdeal =>
    refine Or.inl ⟨?_, fun _ => ?_⟩ <;>
      rcases hstate with h | h | h <;> simp_all [RequestState.isTerminal, Request.Lapsed]
  | select hselection hstate | ticket hstate | prepareFunding hstate | abandonTicket hstate
  | abandonFunding hstate =>
    refine Or.inl ⟨?_, fun hlapsed => ?_⟩
    · simp [hstate, RequestState.isTerminal]
    · simp [hstate, Request.Lapsed] at hlapsed

/-! ## Changes -/

namespace Authority

variable {a b c : Authority} {scope : Scope}

/-- Every active request was there, or has just begun while no other one held its lease. -/
def Admits (a b : Authority) : Prop :=
  ∀ digest r', b.requests.get? digest = some r' → r'.state.isTerminal = false →
    (∃ r, a.requests.get? digest = some r ∧ Continued r r') ∨
      a.requests.get? digest = none ∧ ¬ a.HoldsMarket r' ∧
        ∀ other, other ≠ digest → b.requests.get? other = a.requests.get? other

/-- Every active request was active. -/
def Quiet (a b : Authority) : Prop :=
  ∀ digest r', b.requests.get? digest = some r' → r'.state.isTerminal = false →
    ∃ r, a.requests.get? digest = some r ∧ r.state.isTerminal = false ∧ Continued r r'

theorem Quiet.of_requests (h : b.requests = a.requests) : Quiet a b :=
  fun _ r' hr' hactive => ⟨r', h ▸ hr', hactive, .refl hactive⟩

theorem admits_put (hr : a.requests.get? r.intentDigest = some r)
    (hkey : r'.intentDigest = r.intentDigest) (h : r'.state.isTerminal = false → Continued r r') :
    Admits a (a.putRequest r') := by
  intro digest q hq hactive
  refine Or.inl ?_
  rcases Table.get?_put_eq_some.mp hq with ⟨rfl, hdigest⟩ | ⟨hold, -⟩
  · exact ⟨r, by rw [← hdigest, hkey, hr], h hactive⟩
  · exact ⟨q, hold, .refl hactive⟩

theorem change_admits (h : Change scope a b) : Admits a b := by
  cases h with
  | same hrecords hrequests hdeals hv3 =>
    exact fun digest r' hr' hactive => Or.inl ⟨r', hrequests ▸ hr', .refl hactive⟩
  | @begins r hnew hrfq hstart hlease hselection hok =>
    intro digest q hq hactive
    rcases Table.get?_put_eq_some.mp hq with ⟨rfl, hdigest⟩ | ⟨hold, -⟩
    · refine Or.inr ⟨hdigest ▸ hnew, ?_, fun other hother => Table.get?_put_of_ne (hdigest ▸ hother)⟩
      rcases hstart with ⟨-, hfree⟩ | ⟨-, hmarket⟩
      · exact hfree
      · intro hholds
        have hsome := hholds.1
        rw [hmarket] at hsome
        cases hsome
    · exact Or.inl ⟨q, hold, .refl hactive⟩
  | request hr hmove hok => exact admits_put hr hmove.key (hmove.continued hok)
  | record hmove => exact fun digest r' hr' hactive => Or.inl ⟨r', hr', .refl hactive⟩
  | @confirm r c s hconfirms hr hc hheld hselection hstate hok =>
    refine admits_put (a := a.putRecord _) (r := r) hr rfl fun _ => .of_state rfl rfl ?_ ?_ <;>
      simp [hstate, RequestState.isTerminal]
  | @fund r r' d hr hmove hdeal hselection hfree hok =>
    have hfree : r.state.isTerminal = false ∧ r.state ≠ .releasePending ∧
        r.state ≠ .authorityQuarantined := by
      apply RequestState.unlapsed_of_fundable
      rcases hmove with ⟨-, hfunding | hfunded⟩ | ⟨-, hcheck⟩
      · exact Or.inl hfunding
      · exact Or.inr (Or.inl hfunded)
      · exact Or.inr (Or.inr hcheck)
    rcases hmove with ⟨rfl, -⟩ | ⟨rfl, -⟩ <;>
      exact admits_put (a := a.putDeal d) (r := r) hr rfl fun _ => .of_state rfl rfl hfree.1 hfree.2
  | bind hr hfunded hdeal hselection hfree =>
    exact fun digest r' hr' hactive => Or.inl ⟨r', hr', .refl hactive⟩
  | fill hr hstate hselection hc hfill hok =>
    refine admits_put (a := a.putRecord _) hr rfl fun hactive => ?_
    cases hactive

theorem Admits.congr (h : Admits a b) (hrequests : c.requests = a.requests) : Admits c b := by
  intro digest r' hr' hactive
  rcases h digest r' hr' hactive with hold | ⟨hnew, hfree, hothers⟩
  · exact Or.inl (hrequests ▸ hold)
  · refine Or.inr ⟨hrequests ▸ hnew, ?_, hrequests ▸ hothers⟩
    rw [HoldsMarket, hrequests]
    exact hfree

/-- Changes of which only the first may take a request back or begin one. -/
def Proceeds (a b : Authority) : Prop := ∃ c, Admits a c ∧ Quiet c b

theorem Proceeds.of_change (scope : Scope) (h : Change scope a b) : Proceeds a b :=
  ⟨b, change_admits h, .of_requests rfl⟩

theorem Proceeds.of_quiet (h : Quiet a b) : Proceeds a b :=
  ⟨a, fun _ r' hr' hactive => Or.inl ⟨r', hr', .refl hactive⟩, h⟩

theorem registerRecord_requests {record : Record} {outcome : Outcome Registration}
    (h : a.registerRecord r record = .ok outcome) :
    (a.after (.ok outcome)).requests = a.requests := by
  unfold registerRecord at h
  split at h
  · simp only [bind_ok, pure_ok] at h
    obtain ⟨_, -, rfl⟩ := h
    rfl
  · split at h <;> cases h <;> rfl

theorem register_proceeds {input : RecordInput} : Proceeds a (a.register input).2 := by
  unfold register
  split
  · exact .of_quiet (.of_requests rfl)
  · split
    · exact .of_quiet (.of_requests rfl)
    · rename_i planned hplanned
      have hfirst : Change (anyScope defaultLimits) a (a.after (.ok planned)) :=
        (registerPlan_ok hplanned).1
      dsimp only
      split
      · exact .of_change _ hfirst
      · rename_i registered hregistered
        exact ⟨_, change_admits hfirst, .of_requests (registerRecord_requests hregistered)⟩

/-- A recovery only ends requests. -/
theorem recoverRequests_quiet {stamp : Int} (h : a.recoverRequests stamp = .ok b) : Quiet a b := by
  simp only [recoverRequests, bind_ok, pure_ok] at h
  obtain ⟨requests, hrequests, rfl⟩ := h
  intro digest r' hr' hactive
  obtain ⟨hnone, hsome⟩ := Table.mapM_ok (fun _ _ => recoverRequest_key) hrequests digest
  cases hr : a.requests.get? digest with
  | none =>
    rw [hnone hr] at hr'
    cases hr'
  | some r =>
    obtain ⟨r'', hrecover, hr''⟩ := hsome r hr
    rw [hr'] at hr''
    cases hr''
    refine ⟨r, rfl, ?_⟩
    obtain ⟨completed, hcompleted, hreleased⟩ := recoverRequest_ok hrecover
    rcases hreleased with rfl | ⟨hreleased, -⟩
    · rcases hcompleted with rfl | hcompleted
      · exact ⟨hactive, .refl hactive⟩
      · obtain ⟨rfl, -⟩ := checkRequest_ok.mp hcompleted
        exact ⟨hactive, rfl, rfl, Or.inl ⟨hactive, id⟩⟩
    · obtain ⟨rfl, -⟩ := checkRequest_ok.mp hreleased
      cases hactive

end Authority

/-! ## Steps -/

namespace System

open Authority (Proceeds Quiet Admits)

variable {s : System} {a : Authority} {config : Config}

theorem complete_proceeds : Proceeds a (complete a t).1 := by
  have hsame : Proceeds a a := .of_quiet (.of_requests rfl)
  have hoption {α : Type} {res : Except String (Outcome α)} {outcome : Outcome α}
      (hres : res = .ok outcome) (h : Change (anyScope defaultLimits) a (a.after res)) :
      Proceeds a (a.after (.ok outcome)) := .of_change _ (hres ▸ h)
  unfold complete
  split
  · split
    · rename_i outcome houtcome
      exact hoption houtcome Authority.lateRegistration_change
    · exact hsame
  · exact hsame
  · split
    · rename_i outcome houtcome
      exact hoption houtcome Authority.completeReleaseIntent_change
    · exact hsame
  · split <;> exact hsame
  · split
    · rename_i recovered hrecovered
      have hquiet := Authority.recoverRequests_quiet hrecovered
      split
      · rename_i expired hexpired
        obtain ⟨-, hrequests, -⟩ := Authority.expireV3Requests_same hexpired
        refine .of_quiet fun digest r' hr' hactive => hquiet digest r' ?_ hactive
        exact hrequests ▸ hr'
      · exact .of_quiet hquiet
    · exact hsame

theorem serialized_proceeds : Proceeds a (serialized a t).1 := by
  unfold serialized
  split
  · exact .of_quiet (.of_requests rfl)
  · exact .of_change (anyScope defaultLimits) (Authority.markRelease_change trivial)
  · exact .of_change (anyScope defaultLimits) (Authority.finishRelease_change trivial)
  · exact complete_proceeds
  · exact .of_quiet (.of_requests rfl)

theorem enter_proceeds {b c : Authority} (h : a.enter clock = .ok b) (hproceeds : Proceeds b c) :
    Proceeds a c := by
  obtain ⟨-, hrequests, -⟩ := Authority.enter_same h
  obtain ⟨mid, hadmits, hquiet⟩ := hproceeds
  exact ⟨mid, hadmits.congr hrequests.symm, hquiet⟩

theorem begin_proceeds {f : Authority → System} (h : ∀ b, Proceeds b (f b).authority) :
    Proceeds s.authority (s.begin clock f).authority := by
  unfold begin
  split
  · exact .of_quiet (.of_requests rfl)
  · rename_i b hb
    exact enter_proceeds hb (h b)

theorem advance_proceeds {answer : Answer} : Proceeds s.authority (s.advance t answer clock).1 := by
  unfold advance
  split
  · exact .of_quiet (.of_requests rfl)
  · exact .of_quiet (.of_requests rfl)
  · exact .of_quiet (.of_requests rfl)
  · exact .of_quiet (.of_requests rfl)
  · split
    · exact .of_quiet (.of_requests rfl)
    · rename_i b hb
      exact enter_proceeds hb serialized_proceeds

theorem startRegister_proceeds {input : RecordInput} {now : Int} :
    Proceeds a (s.startRegister a input now).authority := by
  have h : Proceeds a (a.register input).2 := Authority.register_proceeds
  unfold startRegister
  split
  · rename_i registration next hnext
    rw [hnext] at h
    split
    · split <;> exact h
    · exact h
  · rename_i reason next hnext
    rw [hnext] at h
    exact h

theorem startIntent_proceeds {input : Binding} {leaseId : Text} {now : Int} :
    Proceeds a (s.startIntent a input leaseId now).authority := by
  have h : Change (anyScope defaultLimits) a (a.after (a.prepareReleaseIntent input leaseId now)) :=
    Authority.prepareReleaseIntent_change
  unfold startIntent
  split
  · rename_i outcome houtcome
    rw [houtcome] at h
    split <;> exact .of_change _ h
  · exact .of_quiet (.of_requests rfl)

theorem step_proceeds {st : Step} : Proceeds s.authority (s.step config st).authority := by
  cases st with
  | operation operation clock =>
    exact begin_proceeds fun b =>
      .of_change (anyScope config.limits) (Authority.apply_change rfl
        ⟨fun _ _ => trivial, fun _ => trivial, fun _ => trivial, fun _ _ => trivial⟩)
  | register input clock now => exact begin_proceeds fun b => startRegister_proceeds
  | releaseLosers intentDigest now clock =>
    refine begin_proceeds fun b => ?_
    unfold startLosers
    split <;> exact .of_quiet (.of_requests rfl)
  | releaseIntent input leaseId now clock => exact begin_proceeds fun b => startIntent_proceeds
  | releaseSelected input now clock =>
    refine begin_proceeds fun b => ?_
    unfold startSelected
    split <;> exact .of_quiet (.of_requests rfl)
  | recover now clock =>
    refine begin_proceeds fun b => ?_
    unfold startRecovery
    split <;> exact .of_quiet (.of_requests rfl)
  | advance task answer clock =>
    simp only [step]
    split
    · exact .of_quiet (.of_requests rfl)
    · exact advance_proceeds

/-! ## Runs -/

/-- A request was terminal in a state that a run came through. -/
def WasTerminal (config : Config) (steps : List Step) (digest : Text) : Prop :=
  ∃ earlier, earlier <+: steps ∧ ∃ r,
    (Lib.run (System.step config) System.empty earlier).authority.requests.get? digest = some r ∧
      r.state.isTerminal = true

theorem WasTerminal.append {later : List Step} (h : WasTerminal config steps digest) :
    WasTerminal config (steps ++ later) digest := by
  obtain ⟨earlier, hprefix, hterminal⟩ := h
  exact ⟨earlier, hprefix.trans (List.prefix_append _ _), hterminal⟩

def TakenBack (config : Config) (steps : List Step) (r : Request) : Prop :=
  r.Lapsed ∧ WasTerminal config steps r.intentDigest

/-- An active request after a step: it was there, or it has begun without another one of its lease. -/
theorem step_active {st : Step} {q : Request} {c : Authority}
    (hquiet : Quiet c (Lib.run (System.step config) System.empty (steps ++ [st])).authority)
    (hadmits : Admits (Lib.run (System.step config) System.empty steps).authority c)
    (hq : (Lib.run (System.step config) System.empty (steps ++ [st])).authority.requests.get?
      digest = some q) (hactive : q.state.isTerminal = false) :
    TakenBack config (steps ++ [st]) q ∨ ∃ p, c.requests.get? digest = some p ∧
      p.state.isTerminal = false ∧ Continued p q ∧
        ((∃ o, (Lib.run (System.step config) System.empty steps).authority.requests.get? digest =
            some o ∧ o.state.isTerminal = false ∧ Continued o p) ∨
          ¬ (Lib.run (System.step config) System.empty steps).authority.HoldsMarket p ∧
            ∀ other, other ≠ digest → c.requests.get? other =
              (Lib.run (System.step config) System.empty steps).authority.requests.get? other) := by
  have hkey := (Table.get?_eq_some.mp hq).2
  obtain ⟨p, hp, hpactive, hpq⟩ := hquiet digest q hq hactive
  rcases hadmits digest p hp hpactive with ⟨o, ho, hop⟩ | ⟨-, hfree, hothers⟩
  · by_cases hterminal : o.state.isTerminal = true
    · have hwas : WasTerminal config steps digest := ⟨steps, List.prefix_rfl, o, ho, hterminal⟩
      refine Or.inl ⟨?_, hkey ▸ hwas.append⟩
      rcases hop.active with ⟨hnot, -⟩ | ⟨-, hlapsed⟩
      · rw [hterminal] at hnot
        cases hnot
      · exact hpq.lapsed hpactive hlapsed
    · exact Or.inr ⟨p, hp, hpactive, hpq,
        Or.inl ⟨o, ho, Bool.eq_false_of_not_eq_true hterminal, hop⟩⟩
  · exact Or.inr ⟨p, hp, hpactive, hpq, Or.inr ⟨hfree, hothers⟩⟩

theorem holdsMarket_of_shares {a : Authority} {p p' : Request}
    (hp' : a.requests.get? p'.intentDigest = some p') (hne : p'.intentDigest ≠ p.intentDigest)
    (hactive : p'.state.isTerminal = false) (hshares : p.SharesLease p') : a.HoldsMarket p :=
  ⟨hshares.1, p', (Table.get?_eq_some.mp hp').1, hne, hactive, hshares.2.2.1.symm,
    hshares.2.2.2.symm, hshares.2.1.symm⟩

theorem takenBack_run (steps : List Step)
    (hr : (Lib.run (System.step config) System.empty steps).authority.requests.get?
      r.intentDigest = some r)
    (hr' : (Lib.run (System.step config) System.empty steps).authority.requests.get?
      r'.intentDigest = some r') (hne : r.intentDigest ≠ r'.intentDigest)
    (hactive : r.state.isTerminal = false) (hactive' : r'.state.isTerminal = false)
    (hshares : r.SharesLease r') : TakenBack config steps r ∨ TakenBack config steps r' := by
  induction steps using List.reverseRecOn generalizing r r' with
  | nil => cases hr
  | append_singleton steps st ih =>
    obtain ⟨c, hadmits, hquiet⟩ :
        Proceeds (Lib.run (System.step config) System.empty steps).authority
          (Lib.run (System.step config) System.empty (steps ++ [st])).authority := by
      rw [run_append]
      exact step_proceeds
    rcases step_active hquiet hadmits hr hactive with hback | ⟨p, hp, hpactive, hpr, hwhence⟩
    · exact Or.inl hback
    rcases step_active hquiet hadmits hr' hactive' with
      hback | ⟨p', hp', hpactive', hpr', hwhence'⟩
    · exact Or.inr hback
    have hkey := (Table.get?_eq_some.mp hp).2
    have hkey' := (Table.get?_eq_some.mp hp').2
    have hpshares : p.SharesLease p' := by
      simpa only [Request.SharesLease, hpr.binding, hpr.market, hpr'.binding, hpr'.market]
        using hshares
    have hpshares' : p'.SharesLease p :=
      ⟨hpshares.2.1 ▸ hpshares.1, hpshares.2.1.symm, hpshares.2.2.1.symm, hpshares.2.2.2.symm⟩
    rcases hwhence with ⟨o, ho, hoactive, hop⟩ | ⟨hfree, hothers⟩
    · rcases hwhence' with ⟨o', ho', hoactive', hop'⟩ | ⟨hfree', hothers'⟩
      · have hokey := (Table.get?_eq_some.mp ho).2
        have hokey' := (Table.get?_eq_some.mp ho').2
        have hoshares : o.SharesLease o' := by
          simpa only [Request.SharesLease, hop.binding, hop.market, hop'.binding, hop'.market]
            using hpshares
        rw [← hokey] at ho
        rw [← hokey'] at ho'
        rcases ih ho ho' (by rw [hokey, hokey']; exact hne) hoactive hoactive' hoshares with
          hback | hback
        · exact Or.inl ⟨hpr.lapsed hpactive (hop.lapsed hoactive hback.1), hokey ▸ hback.2.append⟩
        · exact Or.inr ⟨hpr'.lapsed hpactive' (hop'.lapsed hoactive' hback.1),
            hokey' ▸ hback.2.append⟩
      · -- the second request has just begun
        rw [hothers' _ hne, ← hkey] at hp
        exact absurd (holdsMarket_of_shares hp (by rw [hkey, hkey']; exact hne) hpactive hpshares')
          hfree'
    · rw [hothers _ hne.symm, ← hkey'] at hp'
      exact absurd (holdsMarket_of_shares hp' (by rw [hkey, hkey']; exact hne.symm) hpactive'
        hpshares) hfree

end System

/-- Of two requests that hold the lease of one account, chain and market, one was terminal before and has
been taken back: it waits for the release of a late reservation, or its authority is quarantined. -/
theorem market_leases (config : Config) (steps : List Step) {r r' : Request}
    (hr : r ∈ (run (System.step config) System.empty steps).authority.requests.entries)
    (hr' : r' ∈ (run (System.step config) System.empty steps).authority.requests.entries)
    (hne : r ≠ r') (hactive : r.state.isTerminal = false) (hactive' : r'.state.isTerminal = false)
    (hshares : r.SharesLease r') :
    System.TakenBack config steps r ∨ System.TakenBack config steps r' := by
  refine System.takenBack_run steps (Table.get?_mem hr) (Table.get?_mem hr') (fun hkey => hne ?_)
    hactive hactive' hshares
  exact List.inj_on_of_nodup_map (Table.nodup _) hr hr' hkey

/-! ## A deal that is quarantined -/

def secondBinding : Binding :=
  ⟨sampleDigest '4', "0x6".toList, "0xa".toList, "sn_main".toList⟩

/-- A deal is filled, another request begins, and the authority of the first one is quarantined. -/
def quarantineSteps : List Step :=
  selectSteps ++ fundSteps ++ [fillStep,
    .operation (.beginRequest ⟨secondBinding, 24, 100, some "0x1/0x2".toList, ["maker".toList]⟩) 24,
    .operation (.quarantineAuthority sampleDeal 1 "reorg".toList) 25]

/-- The quarantined request stands beside the one that began. -/
theorem quarantineSteps_two : ∃ r ∈
    (run (System.step plainConfig) System.empty quarantineSteps).authority.requests.entries,
    ∃ r' ∈ (run (System.step plainConfig) System.empty quarantineSteps).authority.requests.entries,
      r ≠ r' ∧ r.state.isTerminal = false ∧ r'.state.isTerminal = false ∧ r.SharesLease r' := by
  decide +kernel

theorem active_beside_quarantined :
    ¬ (run (System.step plainConfig) System.empty quarantineSteps).authority.OneActive := by
  intro hone
  obtain ⟨r, hr, r', hr', hne, hactive, hactive', hshares⟩ := quarantineSteps_two
  exact hne (hone r hr r' hr' hactive hactive' hshares)

theorem market_leases_quarantined : ∃ r r' : Request, r ≠ r' ∧ r.SharesLease r' ∧
    (System.TakenBack plainConfig quarantineSteps r ∨
      System.TakenBack plainConfig quarantineSteps r') := by
  obtain ⟨r, hr, r', hr', hne, hactive, hactive', hshares⟩ := quarantineSteps_two
  exact ⟨r, r', hne, hshares,
    market_leases plainConfig quarantineSteps hr hr' hne hactive hactive' hshares⟩

end App20.Coordinator
