import App20.Reservation.Protocol

/-!
# The lifecycle of a reservation

The versions that a reservation goes through, and which later versions the compare-and-swap rule
lets a store accept.

* `lifecycle`: the versions from a created reservation on, and what a mutation is.
* `not_mutation_of_spelling`: a transition's result with the token spelled otherwise is no
  mutation, although its canonical text is the same.
-/

namespace App20.Reservation

open App20.Lib App20.Lib.Exec App20.Domain

variable {r n current next : MakerReservation} {c : ReservationCommand}

/-! ## Versions -/

/-- The versions of a reservation over a run of commands, from the one it starts with. A command
that is refused makes none. -/
def versions (r : MakerReservation) : List ReservationCommand → List MakerReservation
  | [] => [r]
  | c :: cs =>
    match transitionMakerReservation r c with
    | .ok next => r :: versions next cs
    | .error _ => versions r cs

/-- What one version keeps of the one before, and what it raises. -/
structure Succeeds (v w : MakerReservation) : Prop where
  fence : w.fence = v.fence + 1
  later : v.updatedAt ≤ w.updatedAt
  same : SameReservation v w

theorem Transitions.updatedAt_eq (h : Transitions r c n) : n.updatedAt = c.time := by
  cases h <;> rfl

theorem Transitioned.succeeds (h : Transitioned r c n) : Succeeds r n := by
  refine ⟨h.step.fence_eq, ?_, h.step.same⟩
  rw [h.step.updatedAt_eq]
  exact h.later

theorem versions_eq_cons (r : MakerReservation) (cs : List ReservationCommand) :
    ∃ vs, versions r cs = r :: vs := by
  induction cs with
  | nil => exact ⟨[], rfl⟩
  | cons c cs ih =>
    unfold versions
    split
    · exact ⟨_, rfl⟩
    · exact ih

theorem versions_chain (r : MakerReservation) (cs : List ReservationCommand) :
    (versions r cs).IsChain Succeeds := by
  induction cs generalizing r with
  | nil => exact List.IsChain.singleton r
  | cons c cs ih =>
    unfold versions
    split
    · rename_i next hnext
      obtain ⟨vs, hvs⟩ := versions_eq_cons next cs
      have htail := ih next
      rw [hvs] at htail ⊢
      exact List.IsChain.cons_cons (transition_ok hnext).succeeds htail
    · exact ih r

theorem transition_of_terminal (h : r.state.Terminal) (c : ReservationCommand) :
    ∃ e, transitionMakerReservation r c = .error e := by
  cases hc : transitionMakerReservation r c with
  | error e => exact ⟨e, rfl⟩
  | ok n => exact absurd h (transition_ok hc).active

/-! ## The way to consumption -/

/-- What the states up to a version say, when it is one on the way to consumption. -/
def OnTheWay (states : List ReservationState) : ReservationState → Prop
  | .reserved => states = []
  | .selected => states = [.reserved]
  | .filling => states = [.reserved, .selected]
  | .consumed => states = [.reserved, .selected, .filling]
  | _ => True

theorem Transitions.onTheWay (h : Transitions r c n) {states : List ReservationState}
    (hr : OnTheWay states r.state) : OnTheWay (states ++ [r.state]) n.state := by
  cases h with
  | select state _ _ | beginFill state _ _ | consume state _ =>
    rw [state] at hr ⊢
    exact congrArg (· ++ _) hr
  | release _ _ _ => trivial
  | expire | quarantine => trivial

theorem versions_onTheWay {cs : List ReservationCommand} {states : List ReservationState}
    (h : OnTheWay states r.state) {pre post : List MakerReservation} {v : MakerReservation}
    (hv : versions r cs = pre ++ v :: post) : OnTheWay (states ++ pre.map (·.state)) v.state := by
  induction cs generalizing r states pre with
  | nil =>
    obtain ⟨rfl, rfl, rfl⟩ : pre = [] ∧ v = r ∧ post = [] := by
      cases pre with
      | nil => simpa [versions, eq_comm] using hv
      | cons p pre => simp [versions] at hv
    simpa using h
  | cons c cs ih =>
    unfold versions at hv
    split at hv
    · rename_i next hnext
      cases pre with
      | nil =>
        cases hv
        simpa using h
      | cons p pre =>
        obtain ⟨rfl, hrest⟩ := List.cons.inj hv
        have hway := ih ((transition_ok hnext).step.onTheWay h) hrest
        rwa [List.append_assoc] at hway
    · exact ih h hv

/-! ## Mutations -/

def ReservationCommand.ValueMoving : ReservationCommand → Prop
  | .beginFill .. | .consume .. => True
  | _ => False

/-- Which command leads to a version with these fields, when none that moves value does. -/
theorem expectedVersion_eq_ok {e : MakerReservation} (h : expectedVersion current next = .ok e) :
    ∃ c : ReservationCommand, ¬ c.ValueMoving ∧ transitionMakerReservation current c = .ok e := by
  unfold expectedVersion at h
  dsimp only at h
  split at h
  · exact ⟨_, id, h⟩
  · exact ⟨_, id, h⟩
  · exact ⟨_, id, h⟩
  · exact ⟨_, id, h⟩
  · cases h
  · cases h
  · cases h

/-- Commands that ask for the same version, up to how they spell it, have the same result. -/
theorem transition_congr {d : ReservationCommand} (hfence : c.expectedFence = d.expectedFence)
    (htime : c.time = d.time)
    (hnext : ∀ m : MakerReservation, nextVersion r c.time (r.fence + 1) c = .ok m →
      nextVersion r d.time (r.fence + 1) d = .ok m)
    (h : transitionMakerReservation r c = .ok n) : transitionMakerReservation r d = .ok n := by
  simp only [transitionMakerReservation, requirePositiveU256, bind_ok, throwIf_ok,
    pure_ok, exists_const, requireTimestamp_ok_iff] at h ⊢
  obtain ⟨u, hvalid, hexpected, hactive, time, ⟨hpos, hsafe, rfl⟩, hlater, fence,
    ⟨hbounds, rfl⟩, m, hm, hrest⟩ := h
  rw [hfence] at hexpected
  rw [htime] at hpos hsafe hlater
  exact ⟨u, hvalid, hexpected, hactive, d.time, ⟨hpos, hsafe, rfl⟩, hlater, _, ⟨hbounds, rfl⟩, m,
    hnext m hm, hrest⟩

variable {value t : Text} {label : String}

theorem requireDigest_again {d : Text} (h : requireDigest value label = .ok d) (l : String) :
    requireDigest d l = .ok d := by
  obtain ⟨hdigest, rfl⟩ := requireDigest_ok_iff.mp h
  exact requireDigest_of_isHex32 (isHex32_toLowerCase hdigest)

theorem requireText_again (h : requireText value label = .ok t) (l : String) :
    requireText t l = .ok t := by
  obtain ⟨hne, rfl⟩ := requireText_ok_iff.mp h
  exact requireText_ok_iff.mpr ⟨by rwa [trim_trim], (trim_trim value).symm⟩

theorem requireText_label (h : requireText value label = .ok t) (l : String) :
    requireText value l = .ok t := requireText_ok_iff.mpr (requireText_ok_iff.mp h)

theorem requireOptional_eq_some {require : Text → String → Except String Text} {value : Option Text}
    (h : requireOptional require value label = .ok (some t)) :
    require (value.getD []) label = .ok t := by
  cases value with
  | none => cases h
  | some text =>
    obtain ⟨t', ht', heq⟩ := map_ok.mp h
    cases heq
    exact ht'

theorem expectedVersion_of_canonical {text : MakerReservation} (hc : ¬ c.ValueMoving)
    (hn : transitionMakerReservation current c = .ok n)
    (hntext : canonicalMakerReservation n = .ok text)
    (htext : canonicalMakerReservation next = .ok text) : expectedVersion current next = .ok n := by
  have ht := transition_ok hn
  simp only [canonicalMakerReservation, bind_ok, pure_ok] at hntext htext
  obtain ⟨_, -, _, -, _, -, _, -, _, -, _, -, quote, hquote, _, -, _, -, reason, hreason, rfl⟩ :=
    hntext
  obtain ⟨_, -, _, -, _, -, _, -, _, -, _, -, quote', hquote', _, -, _, -, reason', hreason',
    heq⟩ := htext
  injection heq with _ _ _ _ _ _ _ _ hupdated _ hstate hquoteEq _ _ hreasonEq
  subst hquoteEq hreasonEq
  unfold expectedVersion
  dsimp only
  rw [← hstate, ← hupdated]
  cases ht.step with
  | select state active digest_eq =>
    dsimp only
    have hnormal := requireDigest_again digest_eq "selectedQuoteDigest"
    simp only [requireOptional, hnormal, Except.map] at hquote
    cases hquote
    have hspelled := requireOptional_eq_some hquote'
    refine transition_congr ht.fence rfl (fun m hm => ?_) hn
    simp only [nextVersion, bind_ok] at hm ⊢
    obtain ⟨u, hu, d, hd, hm⟩ := hm
    rw [digest_eq] at hd
    cases hd
    exact ⟨u, hu, _, requireDigest_ok_iff.mpr (requireDigest_ok_iff.mp hspelled), hm⟩
  | release state active reason_eq =>
    dsimp only
    have hnormal := requireText_again reason_eq "terminalReason"
    simp only [requireOptional, hnormal, Except.map] at hreason
    cases hreason
    have hspelled := requireOptional_eq_some hreason'
    refine transition_congr ht.fence rfl (fun m hm => ?_) hn
    simp only [nextVersion, bind_ok] at hm ⊢
    obtain ⟨u, hu, v, hv, t, htext, hm⟩ := hm
    rw [reason_eq] at htext
    cases htext
    exact ⟨u, hu, v, hv, _, requireText_label hspelled _, hm⟩
  | beginFill | consume => exact absurd trivial hc
  | expire state elapsed => exact transition_congr ht.fence rfl (fun _ hm => hm) hn
  | quarantine reason_eq =>
    dsimp only
    have hnormal := requireText_again reason_eq "terminalReason"
    simp only [requireOptional, hnormal, Except.map] at hreason
    cases hreason
    have hspelled := requireOptional_eq_some hreason'
    refine transition_congr ht.fence rfl (fun m hm => ?_) hn
    simp only [nextVersion, bind_ok] at hm ⊢
    obtain ⟨t, htext, hm⟩ := hm
    rw [reason_eq] at htext
    cases htext
    exact ⟨_, requireText_label hspelled _, hm⟩

/-- A mutation keeps the identity and the terms to the letter, and is up to canonical spelling what
a single command makes that moves no value. -/
theorem mutation_iff {fence : Option Int} :
    assertMakerReservationMutation (some current) next fence = .ok () ↔
      fence = some current.fence ∧ SameReservation current next ∧
        ∃ c n text, ¬ ReservationCommand.ValueMoving c ∧
          transitionMakerReservation current c = .ok n ∧
          canonicalMakerReservation n = .ok text ∧ canonicalMakerReservation next = .ok text := by
  simp only [assertMakerReservationMutation, bind_ok, throwIf_ok, not_not]
  constructor
  · rintro ⟨-, -, -, -, -, hfence, -, hsame, e, hexpected, text, htext, text', htext', heq⟩
    obtain ⟨c, hc, he⟩ := expectedVersion_eq_ok hexpected
    subst heq
    exact ⟨hfence, hsame, c, e, text, hc, he, htext, htext'⟩
  · rintro ⟨hfence, hsame, c, n, text, hc, hn, hntext, htext⟩
    have hexpected := expectedVersion_of_canonical hc hn hntext htext
    exact ⟨(), (canonical_ok htext).1, (), (transition_ok hn).valid, (), hfence, (), hsame, n,
      hexpected, text, hntext, text, htext, rfl⟩

/-! ## The lifecycle -/

/-- From a created reservation on, and for any commands: each version has the fence after the one
before, is no older, and has its identity and terms; a released, expired or consumed version
accepts no command; and the versions before a consumed one were reserved, selected and filling.
What a mutation is, is decided by the same transitions. -/
theorem lifecycle {reservationId makerId intentDigest rfqDigest asset : Text}
    {amountBaseUnits createdAt expiresAt fence : Int}
    (h : createMakerReservation reservationId makerId intentDigest rfqDigest asset amountBaseUnits
      createdAt expiresAt fence = .ok r) (cs : List ReservationCommand) :
    (versions r cs).IsChain Succeeds ∧
      (∀ v ∈ versions r cs, v.state = .released ∨ v.state = .expired ∨ v.state = .consumed →
        ∀ c, ∃ e, transitionMakerReservation v c = .error e) ∧
      (∀ pre v post, versions r cs = pre ++ v :: post → v.state = .consumed →
        pre.map (·.state) = [.reserved, .selected, .filling]) ∧ ∀ current next expectedFence,
        assertMakerReservationMutation (some current) next expectedFence = .ok () ↔
          expectedFence = some current.fence ∧ SameReservation current next ∧
            ∃ c n text, ¬ ReservationCommand.ValueMoving c ∧
              transitionMakerReservation current c = .ok n ∧
              canonicalMakerReservation n = .ok text ∧
              canonicalMakerReservation next = .ok text := by
  obtain ⟨-, -, -, -, -, hcreated, -⟩ := createMakerReservation_ok h
  refine ⟨versions_chain r cs, fun v _ hstate c => transition_of_terminal ?_ c, ?_,
    fun _ _ _ => mutation_iff⟩
  · rcases hstate with hstate | hstate | hstate
    · exact Or.inl hstate
    · exact Or.inr (Or.inr (Or.inl hstate))
    · exact Or.inr (Or.inl hstate)
  · intro pre v post hv hstate
    have hway : OnTheWay [] r.state := by
      rw [hcreated.state]
      rfl
    have hpath := versions_onTheWay hway hv
    rw [hstate] at hpath
    exact hpath

/-! ## Spellings -/

namespace Spelling

def word (c : Char) : Text := '0' :: 'x' :: List.replicate 64 c

def created : MakerReservation where
  reservationId := word '1'
  makerId := "maker".toList
  intentDigest := word '2'
  rfqDigest := word '3'
  asset := "0x5".toList
  amountBaseUnits := 60
  createdAt := 10
  expiresAt := 100
  updatedAt := 10
  fence := 1
  state := .reserved
  selectedQuoteDigest := none
  settlementAttemptId := none
  settlementTransactionHash := none
  terminalReason := none

def select : ReservationCommand := .select 1 20 (word '4')

def selected : MakerReservation :=
  { created with
    updatedAt := 20, fence := 2, state := .selected, selectedQuoteDigest := some (word '4') }

end Spelling

open Spelling in
theorem lifecycle_select :
    versions created [select] = [created, selected] ∧ Succeeds created selected := by
  have hcreated : createMakerReservation (word '1') "maker".toList (word '2') (word '3')
      "0x5".toList 60 10 100 1 = .ok created := by decide +kernel
  have hversions : versions created [select] = [created, selected] := by decide +kernel
  have hchain := (lifecycle hcreated [select]).1
  rw [hversions] at hchain
  exact ⟨hversions, (List.isChain_cons_cons.mp hchain).1⟩

open Spelling in
/-- The result of a selection, with its token spelled `0x05`, has the canonical text of the
selection's result; no fence makes it a mutation. -/
theorem not_mutation_of_spelling :
    (∃ text, transitionMakerReservation created select = .ok selected ∧
      canonicalMakerReservation selected = .ok text ∧
      canonicalMakerReservation { selected with asset := "0x05".toList } = .ok text) ∧
      ∀ expectedFence, assertMakerReservationMutation (some created)
        { selected with asset := "0x05".toList } expectedFence ≠ .ok () := by
  refine ⟨⟨selected, by decide +kernel, by decide +kernel, by decide +kernel⟩, ?_⟩
  intro expectedFence h
  obtain ⟨-, -, hrevised⟩ := mutation_revise_ok h
  have hasset := hrevised.same.asset
  revert hasset
  decide

end App20.Reservation
