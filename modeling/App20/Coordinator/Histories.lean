import App20.Coordinator.Soundness

/-!
# What no change undoes

A request keeps its principal and its selection, stays funded and stays on its way out; a deal stays as it
is. A reservation that a task may release is not a selected one, unless its request is being released or is
funded.

* `Follows.change`: what a change leaves of a request.
* `Authority.Held.change`: the selected record of a request that is neither released nor funded is held.
-/

namespace App20.Coordinator

open App20.Lib App20.Domain
open Relation (ReflTransGen)

/-- The request is on its way out under its own lease. -/
def Request.Releases (r : Request) : Prop :=
  r.releaseLeaseId.isSome = true ∧ (r.state = .releasePending ∨ r.state = .released)

structure Follows (r r' : Request) : Prop where
  binding : r'.binding = r.binding
  selection : ∀ s ∈ r.selection, r'.selection = some s
  funded : r.state.isFunded = true → r'.state.isFunded = true
  released : r.state = .releasePending ∨ r.state = .released →
    r'.state = .releasePending ∨ r'.state = .released
  releases : r.Releases → r'.Releases

namespace Follows

variable {r r' r'' : Request}

theorem refl : Follows r r := ⟨rfl, fun _ hs => hs, id, id, id⟩

theorem trans (h : Follows r r') (h' : Follows r' r'') : Follows r r'' where
  binding := h'.binding.trans h.binding
  selection s hs := h'.selection s (h.selection s hs)
  funded hr := h'.funded (h.funded hr)
  released hr := h'.released (h.released hr)
  releases hr := h'.releases (h.releases hr)

/-- A request that was not on its way out and has the same selection. -/
theorem of_state (hbinding : r'.binding = r.binding)
    (hselection : ∀ s ∈ r.selection, r'.selection = some s)
    (hfunded : r.state.isFunded = true → r'.state.isFunded = true)
    (hstate : r.state ≠ .releasePending ∧ r.state ≠ .released) : Follows r r' where
  binding := hbinding
  selection := hselection
  funded := hfunded
  released hr := (hr.elim hstate.1 hstate.2).elim
  releases hr := (hr.2.elim hstate.1 hstate.2).elim

end Follows

namespace Authority

variable {a b : Authority} {r : Request} {scope : Scope}

/-! ## Requests -/

theorem Sound.follows_move {r' : Request} (h : a.Sound) (hr : r ∈ a.requests.entries)
    (hmove : Move scope a r r') (hok : r'.Consistent) : Follows r r' where
  binding := hmove.keeps.1
  selection s hs := hmove.keeps.2.1.trans hs
  funded hfunded := (h.isFunded_eq hr hmove hok).trans hfunded
  released hreleased := (hmove.isReleased hreleased).1
  releases hreleases := by
    obtain ⟨hstate, hlease⟩ := hmove.isReleased hreleases.2
    exact ⟨by rw [hlease]; exact hreleases.1, hstate⟩

variable {digest : Text} {key : RecordKey} {c : Record}

theorem follows_put {r' : Request} (hold : a.requests.get? digest = some r) {q : Request}
    (hq : a.requests.get? q.intentDigest = some q) (hkey : r'.intentDigest = q.intentDigest)
    (hfollows : Follows q r') :
    ∃ r'', (a.putRequest r').requests.get? digest = some r'' ∧ Follows r r'' := by
  by_cases hdigest : digest = r'.intentDigest
  · rw [hdigest, hkey, hq] at hold
    cases hold
    exact ⟨r', hdigest ▸ Table.get?_put_self, hfollows⟩
  · exact ⟨r, (Table.get?_put_of_ne hdigest).trans hold, .refl⟩

theorem Sound.follows (h : a.Sound) (hchange : Change scope a b)
    (hold : a.requests.get? digest = some r) :
    ∃ r', b.requests.get? digest = some r' ∧ Follows r r' := by
  cases hchange with
  | same hrecords hrequests hdeals hv3 => exact ⟨r, hrequests ▸ hold, .refl⟩
  | begins hnew hrfq hstart hlease hselection hbinding hok =>
    refine ⟨r, (Table.get?_put_of_ne fun hkey => ?_).trans hold, .refl⟩
    rw [hkey, hnew] at hold
    cases hold
  | request hr hmove hok =>
    exact follows_put hold hr hmove.key (h.follows_move (Table.get?_eq_some.mp hr).1 hmove hok)
  | record hmove | bind hr hfunded hdeal hselection hfree => exact ⟨r, hold, .refl⟩
  | @confirm q c s hconfirms hr hc hheld hselection hstate hok =>
    refine follows_put (q := q) (a := a.putRecord _) hold hr rfl
      (.of_state rfl (fun s' hs' => ?_) (fun hfunded => ?_) ?_)
    · rw [hselection] at hs'
      cases hs'
    · rw [hstate] at hfunded
      cases hfunded
    · simp [hstate]
  | @fund q q' d hr hmove hdeal hselection hfree hok =>
    rcases hmove with ⟨rfl, hstate⟩ | ⟨rfl, hstate⟩ <;>
      refine follows_put (q := q) (a := a.putDeal d) hold hr rfl
        (.of_state rfl (fun s hs => hs) (fun _ => rfl) ?_)
    · have hnot := RequestState.not_releasing_of_funding hstate
      refine ⟨fun hpending => ?_, hnot.2⟩
      rw [hpending] at hnot
      cases hnot.1
    · simp [hstate]
  | @fill q c s hr hstate hselection hc hfill hok =>
    exact follows_put (q := q) (a := a.putRecord _) hold hr rfl
      (.of_state rfl (fun s hs => hs) (fun _ => rfl) (by simp [hstate]))

/-! ## Deals -/

theorem deal_change (hchange : Change scope a b) {dealId : Text} {d : Deal}
    (hd : a.deals.get? dealId = some d) : b.deals.get? dealId = some d := by
  have hput (e : Deal) (hfree : ∀ prior ∈ a.deals.get? e.dealId, prior = e) :
      (a.deals.put e).get? dealId = some d := by
    by_cases hid : dealId = e.dealId
    · rw [hid] at hd ⊢
      rw [hfree d hd]
      exact Table.get?_put_self
    · exact (Table.get?_put_of_ne hid).trans hd
  cases hchange with
  | same hrecords hrequests hdeals hv3 => exact hdeals ▸ hd
  | fund hr hmove hdeal hselection hfree hok | bind hr hfunded hdeal hselection hfree =>
    exact hput _ hfree
  | _ => exact hd

/-! ## Records -/

/-- What a change leaves of a record that is there: it may be released or filled, or confirmed when
it is held. -/
theorem record_change (hchange : Change scope a b) (hc : a.records.get? key = some c) :
    ∃ c', b.records.get? key = some c' ∧
      (c' = c ∨ c.state.isFinal = false ∧ scope.releasable key ∧ c'.state.isHeld = false ∨
        c.state.isHeld = true ∧ c'.state = .selected ∨ scope.fillable c ∧ c'.state = .consumed ∧
          ∃ r, b.requests.get? key.intentDigest = some r ∧ r.state.isFunded = true) := by
  have hput (e : Record) : (a.records.put e).get? key = some e ∧ e.key = key ∨
      (a.records.put e).get? key = some c := by
    by_cases hkey : key = e.key
    · exact Or.inl ⟨hkey ▸ Table.get?_put_self, hkey.symm⟩
    · exact Or.inr ((Table.get?_put_of_ne hkey).trans hc)
  cases hchange with
  | same hrecords hrequests hdeals hv3 => exact ⟨c, hrecords ▸ hc, Or.inl rfl⟩
  | record hmove =>
    cases hmove with
    | register hnew hrequest hplan hstate hauthorization =>
      refine ⟨c, (Table.get?_put_of_ne fun hkey => ?_).trans hc, Or.inl rfl⟩
      rw [hkey, hnew] at hc
      cases hc
    | @release e state he hpending hreleasable hstate =>
      rcases hput { e with state } with ⟨hget, hkey⟩ | hget
      · have hsame : a.records.get? e.key = some c := (congrArg a.records.get? hkey).trans hc
        rw [he] at hsame
        cases hsame
        refine ⟨_, hget, Or.inr (Or.inl ⟨hpending, hkey ▸ hreleasable, ?_⟩)⟩
        rcases hstate with rfl | rfl | rfl <;> rfl
      · exact ⟨c, hget, Or.inl rfl⟩
  | @confirm q e s hconfirms hr he hheld hselection hstate hok =>
    rcases hput { e with state := .selected, authorization := some (s.fence, s.quoteDigest) } with
      ⟨hget, hkey⟩ | hget
    · have hsame : a.records.get? e.key = some c := (congrArg a.records.get? hkey).trans hc
      rw [Table.get?_mem (Table.get?_eq_some.mp he).1] at hsame
      cases hsame
      exact ⟨_, hget, Or.inr (Or.inr (Or.inl ⟨hheld, rfl⟩))⟩
    · exact ⟨c, hget, Or.inl rfl⟩
  | @fill q e s hr hstate hselection he hfill hok =>
    rcases hput { e with state := .consumed } with ⟨hget, hkey⟩ | hget
    · have hsame : a.records.get? e.key = some c := (congrArg a.records.get? hkey).trans hc
      rw [Table.get?_mem (Table.get?_eq_some.mp he).1] at hsame
      cases hsame
      refine ⟨_, hget, Or.inr (Or.inr (Or.inr ⟨hfill, rfl, { q with state := .filled }, ?_, rfl⟩))⟩
      have hdigest : key.intentDigest = q.intentDigest := by
        rw [← hkey]
        exact congrArg RecordKey.intentDigest (Table.get?_eq_some.mp he).2
      rw [hdigest]
      exact Table.get?_put_self
    · exact ⟨c, hget, Or.inl rfl⟩
  | _ => exact ⟨c, hc, Or.inl rfl⟩

theorem final_change (hchange : Change scope a b)
    (hfill : ∀ c, scope.fillable c → c.state.isFinal = false) (hc : a.records.get? key = some c)
    (hfinal : c.state.isFinal = true) : b.records.get? key = some c := by
  obtain ⟨c', hc', rfl | ⟨hpending, -⟩ | ⟨hheld, -⟩ | ⟨hfillable, -⟩⟩ := record_change hchange hc
  · exact hc'
  · rw [hpending] at hfinal
    cases hfinal
  · cases hs : c.state <;> simp_all [RecordState.isHeld, RecordState.isFinal]
  · rw [hfill c hfillable] at hfinal
    cases hfinal

/-! ## Reservations that may be released -/

/-- The record is not held, its request is on its way out or funded, or it lost to another one. -/
def Releasable (a : Authority) (key : RecordKey) : Prop :=
  ∃ c, a.records.get? key = some c ∧ (c.state.isHeld = false ∨
    ∃ r, a.requests.get? key.intentDigest = some r ∧
      (r.Releases ∨ r.state.isFunded = true ∨ ∃ s ∈ r.selection, s.pending ≠ key.pending))

theorem Sound.releasable_change (h : a.Sound) (hchange : Change scope a b)
    (hkey : a.Releasable key) : b.Releasable key := by
  obtain ⟨c, hc, hwhy⟩ := hkey
  obtain ⟨c', hc', hrecord⟩ := record_change hchange hc
  refine ⟨c', hc', ?_⟩
  rcases hwhy with hfree | ⟨r, hr, hwhy⟩
  · refine Or.inl ?_
    rcases hrecord with rfl | ⟨-, -, hfree'⟩ | ⟨hheld, -⟩ | ⟨-, hconsumed, -⟩
    · exact hfree
    · exact hfree'
    · rw [hfree] at hheld
      cases hheld
    · rw [hconsumed]
      rfl
  · obtain ⟨r', hr', hfollows⟩ := h.follows hchange hr
    refine Or.inr ⟨r', hr', ?_⟩
    rcases hwhy with hreleases | hfunded | ⟨s, hs, hother⟩
    · exact Or.inl (hfollows.releases hreleases)
    · exact Or.inr (Or.inl (hfollows.funded hfunded))
    · exact Or.inr (Or.inr ⟨s, hfollows.selection s hs, hother⟩)

/-- The selected record is held as long as its request is neither on its way out nor funded. -/
def Held (a : Authority) : Prop :=
  ∀ digest r, a.requests.get? digest = some r → ∀ s ∈ r.selection,
    ∀ c, a.records.get? ⟨digest, s.pending⟩ = some c → c.state.isHeld = false →
      r.Releases ∨ r.state.isFunded = true

theorem Held.empty : Authority.empty.Held := by
  intro digest r hr
  cases hr

theorem new_selection (hchange : Change scope a b)
    (hnone : ∀ r ∈ a.requests.get? digest, r.selection = none) {s : Selection}
    (hr : b.requests.get? digest = some r) (hs : r.selection = some s) :
    ∃ c, b.records.get? ⟨digest, s.pending⟩ = some c ∧ c.state = .selected := by
  -- what was there, or comes of it, is not selected
  have hput {q : Request} (hq : q.selection = none) : ¬ (a.requests.put q).get? digest = some r := by
    intro hget
    rcases Table.get?_put_eq_some.mp hget with ⟨rfl, -⟩ | ⟨hold, -⟩
    · rw [hq] at hs
      cases hs
    · rw [hnone r hold] at hs
      cases hs
  have hmoved {q q' : Request} (hq : a.requests.get? q.intentDigest = some q)
      (hbinding : q'.binding = q.binding) (hselection : q'.selection = q.selection)
      (hget : (a.requests.put q').get? digest = some r) : False := by
    rcases Table.get?_put_eq_some.mp hget with ⟨rfl, hkey⟩ | ⟨hold, -⟩
    · have hdigest : q.intentDigest = digest := by
        rw [← hkey, Request.intentDigest, Request.intentDigest, hbinding]
      rw [hselection, hnone q (hdigest ▸ hq)] at hs
      cases hs
    · rw [hnone r hold] at hs
      cases hs
  cases hchange with
  | same hrecords hrequests hdeals hv3 =>
    rw [hnone r (hrequests ▸ hr)] at hs
    cases hs
  | begins hnew hrfq hstart hlease hselection hbinding hok => exact (hput hselection hr).elim
  | request hq hmove hok => exact (hmoved hq hmove.keeps.1 hmove.keeps.2.1 hr).elim
  | record hmove | bind hq hfunded hdeal hselection hfree =>
    rw [hnone r hr] at hs
    cases hs
  | @confirm q c s' hconfirms hq hc hheld hselection hstate hok =>
    rcases Table.get?_put_eq_some.mp hr with ⟨rfl, hkey⟩ | ⟨hold, -⟩
    · cases hs
      refine ⟨{ c with state := .selected, authorization := some (s.fence, s.quoteDigest) }, ?_, rfl⟩
      refine Table.get?_put_eq_some.mpr (Or.inl ⟨rfl, ?_⟩)
      rw [← hkey]
      exact (Table.get?_eq_some.mp hc).2
    · rw [hnone r hold] at hs
      cases hs
  | fund hq hmove hdeal hselection hfree hok =>
    rcases hmove with ⟨rfl, -⟩ | ⟨rfl, -⟩ <;> refine (hmoved hq ?_ ?_ hr).elim <;> rfl
  | fill hq hstate hselection hc hfill hok => refine (hmoved hq ?_ ?_ hr).elim <;> rfl

/-- Where only releasable reservations are released, a change keeps what is held. -/
theorem Sound.held_change (h : a.Sound) (hheld : a.Held)
    (hscope : ∀ key, scope.releasable key → a.Releasable key) (hchange : Change scope a b) :
    b.Held := by
  intro digest r' hr' s hs c' hc' hfree
  by_cases hnone : ∀ r ∈ a.requests.get? digest, r.selection = none
  · obtain ⟨c, hc, hselected⟩ := new_selection hchange hnone hr' hs
    rw [hc'] at hc
    cases hc
    rw [hselected] at hfree
    cases hfree
  · simp only [not_forall] at hnone
    obtain ⟨r, hr, hselection⟩ := hnone
    obtain ⟨s', hs'⟩ := Option.ne_none_iff_exists'.mp hselection
    obtain ⟨r'', hr'', hfollows⟩ := h.follows hchange hr
    rw [hr'] at hr''
    cases hr''
    have hsame : s' = s := Option.some.inj ((hfollows.selection s' hs').symm.trans hs)
    subst hsame
    obtain ⟨hmem, rfl⟩ := Table.get?_eq_some.mp hr
    obtain ⟨c, hc, -, -⟩ := h.selected r hmem s' hs'
    have hfollows' : r.Releases ∨ r.state.isFunded = true →
        r'.Releases ∨ r'.state.isFunded = true := Or.imp hfollows.releases hfollows.funded
    obtain ⟨c'', hc'', hrecord⟩ := record_change hchange hc
    rw [hc'] at hc''
    cases hc''
    rcases hrecord with rfl | ⟨-, hreleasable, -⟩ | ⟨-, hselected⟩ | ⟨-, -, q, hq, hfunded⟩
    · exact hfollows' (hheld _ r hr s' hs' c' hc hfree)
    · obtain ⟨e, he, hwhy⟩ := hscope _ hreleasable
      rcases hwhy with hfree | ⟨q, hq, hwhy⟩
      · exact hfollows' (hheld _ r hr s' hs' e he hfree)
      · rw [Option.mem_def.mp hr] at hq
        cases hq
        rcases hwhy with hreleases | hfunded | ⟨s'', hs'', hother⟩
        · exact hfollows' (Or.inl hreleases)
        · exact hfollows' (Or.inr hfunded)
        · rw [Option.mem_def.mp hs'] at hs''
          cases hs''
          exact absurd rfl hother
    · rw [hselected] at hfree
      cases hfree
    · rw [hr'] at hq
      cases hq
      exact Or.inr hfunded

/-! ## Several changes -/

theorem change_progress (hchange : Change scope a b) : V3Progress scope.limits scope.takes a b := by
  cases hchange with
  | same hrecords hrequests hdeals hv3 => exact hv3
  | _ => exact .same rfl

/-- What stays of requests and deals. -/
structure Continues (a b : Authority) : Prop where
  requests : ∀ digest r, a.requests.get? digest = some r →
    ∃ r', b.requests.get? digest = some r' ∧ Follows r r'
  deals : ∀ dealId d, a.deals.get? dealId = some d → b.deals.get? dealId = some d

theorem Continues.refl : Continues a a := ⟨fun _ r hr => ⟨r, hr, .refl⟩, fun _ _ hd => hd⟩

theorem Continues.trans {c : Authority} (h : Continues a b) (h' : Continues b c) :
    Continues a c where
  requests digest r hr := by
    obtain ⟨r', hr', hfollows⟩ := h.requests digest r hr
    obtain ⟨r'', hr'', hfollows'⟩ := h'.requests digest r' hr'
    exact ⟨r'', hr'', hfollows.trans hfollows'⟩
  deals dealId d hd := h'.deals dealId d (h.deals dealId d hd)

theorem Sound.continues (h : a.Sound) (hchanges : ReflTransGen (Change scope) a b) :
    b.Sound ∧ Continues a b := by
  induction hchanges with
  | refl => exact ⟨h, .refl⟩
  | tail _ hchange ih =>
    refine ⟨ih.1.change hchange, ih.2.trans ⟨fun digest r hr => ?_, fun dealId d hd => ?_⟩⟩
    · exact ih.1.follows hchange hr
    · exact deal_change hchange hd

theorem finals_kept (hfill : ∀ c, scope.fillable c → c.state.isFinal = false)
    (hchanges : ReflTransGen (Change scope) a b) (hc : a.records.get? key = some c)
    (hfinal : c.state.isFinal = true) : b.records.get? key = some c := by
  induction hchanges with
  | refl => exact hc
  | tail _ hchange ih => exact final_change hchange hfill ih hfinal

end Authority

end App20.Coordinator
