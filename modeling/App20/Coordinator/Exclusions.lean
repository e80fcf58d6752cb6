import App20.Coordinator.Histories

/-!
# What excludes what

In every interleaving a request keeps the selection it once has, the selected record is handed to a maker
only while its request is on its way out or after its deal was bound, deals stay as they are, and no request
is both funded and released. A record that is final stays so, unless a fill comes over a selected reservation
that was already released or had expired.

* `System.Sound.step`: every step keeps the invariant.
* `exclusions`: every two states of a run.
-/

namespace App20.Coordinator

open App20.Lib App20.Domain
open Relation (ReflTransGen)

/-! ## Reservations of tasks -/

/-- The reservations that a task still has to release. -/
def Phase.keys : Phase → List RecordKey
  | .next rest => rest.map Record.key
  | .joining _ rest => rest.map Record.key
  | .marking key rest => key :: rest.map Record.key
  | .calling record rest => record.key :: rest.map Record.key
  | .finishing key _ rest => key :: rest.map Record.key
  | .completing => []
  | .done _ => []

theorem Phase.active_mem {phase : Phase} {key : RecordKey} (h : phase.active = some key) :
    key ∈ phase.keys := by
  cases phase <;> cases h <;> exact List.mem_cons_self

variable {records : List Record} {now : Int} {t : Task}

namespace System

variable {s : System} {a b : Authority} {config : Config} {scope : Scope}

/-- What holds of the coordinator and its tasks. -/
structure Sound (s : System) : Prop where
  authority : s.authority.Sound
  held : s.authority.Held
  tasks : ∀ t ∈ s.tasks, ∀ key ∈ t.phase.keys, s.authority.Releasable key

theorem Sound.empty : System.empty.Sound where
  authority := Authority.Sound.empty
  held := Authority.Held.empty
  tasks t ht := by cases ht

/-- What a step of tasks that release only releasable reservations keeps. -/
structure Kept (scope : Scope) (a b : Authority) : Prop where
  sound : b.Sound
  held : b.Held
  releasable : ∀ key, a.Releasable key → b.Releasable key

theorem changes_kept (hsound : a.Sound) (hheld : a.Held)
    (hscope : ∀ key, scope.releasable key → a.Releasable key)
    (h : ReflTransGen (Change scope) a b) : Kept scope a b := by
  induction h with
  | refl => exact ⟨hsound, hheld, fun _ hkey => hkey⟩
  | tail _ hchange ih =>
    exact ⟨ih.sound.change hchange,
      ih.sound.held_change ih.held (fun key hkey => ih.releasable key (hscope key hkey)) hchange,
      fun key hkey => ih.sound.releasable_change hchange (ih.releasable key hkey)⟩

/-! ## New tasks -/

theorem register_keys {input : RecordInput} {registration : Authority.Registration}
    (h : a.register input = (.ok registration, b)) (hrelease : registration.release = true) :
    b.Releasable registration.record.key := by
  unfold Authority.register at h
  split at h
  · cases h
  · split at h
    · cases h
    · dsimp only at h
      split at h
      · cases h
      · rename_i registered hregistered
        cases h
        unfold Authority.registerRecord at hregistered
        split at hregistered
        · simp only [bind_ok, pure_ok] at hregistered
          obtain ⟨_, -, rfl⟩ := hregistered
          cases hrelease
        · split at hregistered
          · cases hregistered
            exact ⟨_, Table.get?_put_self, Or.inl rfl⟩
          · cases hregistered
            cases hrelease

theorem losers_keys {intentDigest : Text} (h : a.losers intentDigest = .ok records) :
    ∀ c ∈ records, a.Releasable c.key := by
  simp only [Authority.losers, bind_ok, pure_ok] at h
  obtain ⟨digest, -, r, hget, winner, hwinner, rfl⟩ := h
  obtain ⟨rfl, hr⟩ := Authority.requestOf_ok hget
  intro c hc
  obtain ⟨hmem, hdigest, hother⟩ := by simpa using List.mem_filter.mp hc
  refine ⟨c, Table.get?_mem hmem, Or.inr ⟨r, hdigest ▸ hr, Or.inr (Or.inr ?_)⟩⟩
  unfold Authority.confirmedSelectionRecord at hwinner
  split at hwinner
  · cases hwinner
  · rename_i selection hselection
    refine ⟨selection, hselection, fun hpending => hother ?_⟩
    split at hwinner
    · cases hwinner
    · rename_i record hrecord
      simp only [bind_ok, pure_ok] at hwinner
      obtain ⟨_, -, rfl⟩ := hwinner
      rw [(Table.get?_eq_some.mp hrecord).2, ← hdigest, hpending]

theorem prepareReleaseIntent_keys {input : Binding} {leaseId : Text}
    {outcome : Outcome PreparedRelease} (h : a.prepareReleaseIntent input leaseId now = .ok outcome)
    (hrecords : outcome.result.records = some records) :
    ∀ c ∈ records, (a.after (.ok outcome)).Releasable c.key := by
  simp only [Authority.prepareReleaseIntent, bind_ok] at h
  obtain ⟨stamp, -, binding, -, lease, -, r, hget, _, hbinding, h⟩ := h
  split at h
  · cases h
    cases hrecords
  · simp only [bind_ok, pure_ok] at h
    obtain ⟨_, -, n, hn, rfl⟩ := h
    cases hrecords
    obtain ⟨rfl, hok⟩ := checkRequest_ok.mp hn
    intro c hc
    obtain ⟨hmem, hdigest⟩ := by simpa using List.mem_filter.mp hc
    refine ⟨c, Table.get?_mem hmem, Or.inr ⟨_, ?_, Or.inl ⟨hok.releasing rfl, Or.inl rfl⟩⟩⟩
    rw [hdigest, ← (Authority.requestOf_ok hget).1]
    refine Table.get?_put_eq_some.mpr (Or.inl ⟨rfl, ?_⟩)
    split <;> rfl

theorem prepareReleaseSelected_keys {input target : Deal}
    (h : a.prepareReleaseSelected input = .ok (target, some records)) :
    ∀ c ∈ records, a.Releasable c.key := by
  simp only [Authority.prepareReleaseSelected, bind_ok, throwIf_ok, not_or] at h
  obtain ⟨⟨r, target'⟩, hexact, _, ⟨-, hstate⟩, h⟩ := h
  obtain ⟨hr, hdeal, -⟩ := Authority.exactRequest_ok hexact
  split at h
  · cases h
  · simp only [bind_ok, pure_ok] at h
    obtain ⟨_, -, h⟩ := h
    cases h
    intro c hc
    simp only [List.mem_filter, decide_eq_true_eq] at hc
    obtain ⟨hmem, ⟨hkey, -⟩, -⟩ := hc
    refine ⟨c, Table.get?_mem hmem, Or.inr ⟨r, ?_, Or.inr (Or.inl ?_)⟩⟩
    · rw [hkey, hdeal]
      exact hr
    · refine RequestState.isFunded_of_bound fun hnot => ?_
      exact hstate ⟨hnot.1, hnot.2.2.2⟩

theorem releasable_keys : ∀ c ∈ a.releasable, a.Releasable c.key := by
  intro c hc
  obtain ⟨hmem, hstate⟩ := by simpa using List.mem_filter.mp hc
  refine ⟨c, Table.get?_mem hmem, Or.inl ?_⟩
  rw [hstate]
  rfl

/-! ## Steps -/

/-- A step leaves the keys of tasks, or starts one with releasable keys. -/
theorem begin_tasks {clock : Int} {f : Authority → System} {P : System → Prop}
    (hnone : P s) (h : ∀ b, s.authority.enter clock = .ok b → P (f b)) : P (s.begin clock f) := by
  unfold begin
  split
  · exact hnone
  · rename_i b hb
    exact h b hb

/-- The tasks of a system release what is releasable in its maps, as they were releasable before. -/
def TasksOf (old : List Task) (s : System) : Prop :=
  ∀ t ∈ s.tasks, (∃ t' ∈ old, t.phase.keys ⊆ t'.phase.keys) ∨
    ∀ key ∈ t.phase.keys, s.authority.Releasable key

theorem tasksOf_same {a : Authority} : TasksOf s.tasks { s with authority := a } :=
  fun t ht => Or.inl ⟨t, ht, fun _ hkey => hkey⟩

theorem tasksOf_start {kind : TaskKind} (h : ∀ c ∈ records, a.Releasable c.key) :
    TasksOf s.tasks (s.start a kind now records) := by
  intro t ht
  rcases List.mem_append.mp ht with hold | hnew
  · exact Or.inl ⟨t, hold, fun _ hkey => hkey⟩
  · rw [List.mem_singleton.mp hnew]
    refine Or.inr fun key hkey => ?_
    obtain ⟨c, hc, rfl⟩ := List.mem_map.mp hkey
    exact h c hc

theorem startRegister_tasks {input : RecordInput} :
    TasksOf s.tasks (s.startRegister a input now) := by
  unfold startRegister
  split
  · rename_i registration next hnext
    split
    · rename_i hrelease
      split
      · refine tasksOf_start fun c hc => ?_
        rw [List.mem_singleton.mp hc]
        exact register_keys hnext hrelease
      · exact tasksOf_same
    · exact tasksOf_same
  · exact tasksOf_same

theorem startIntent_tasks {input : Binding} {leaseId : Text} :
    TasksOf s.tasks (s.startIntent a input leaseId now) := by
  unfold startIntent
  split
  · rename_i outcome houtcome
    split
    · rename_i records hrecords
      exact tasksOf_start (prepareReleaseIntent_keys houtcome hrecords)
    · exact tasksOf_same
  · exact tasksOf_same

theorem startLosers_tasks {intentDigest : Text} :
    TasksOf s.tasks (s.startLosers a intentDigest now) := by
  unfold startLosers
  split
  · rename_i stamp records _ hlosers
    exact tasksOf_start (losers_keys hlosers)
  · exact tasksOf_same

theorem startSelected_tasks {input : Deal} : TasksOf s.tasks (s.startSelected a input now) := by
  unfold startSelected
  split
  · rename_i stamp target records _ hselected
    exact tasksOf_start (prepareReleaseSelected_keys hselected)
  · exact tasksOf_same

theorem startRecovery_tasks : TasksOf s.tasks (s.startRecovery a now) := by
  unfold startRecovery
  split
  · exact tasksOf_start releasable_keys
  · exact tasksOf_same

/-- A task turns to no record that it did not begin with. -/
theorem serialized_keys : (serialized a t).2.phase.keys ⊆ t.phase.keys := by
  unfold serialized
  split
  · rename_i key rest hphase
    rw [hphase]
    exact fun _ hkey => hkey
  · rename_i key rest hphase
    rw [hphase]
    dsimp only
    split
    · rename_i record hrecord
      have hkey : record.key = key := by
        unfold Authority.markRelease at hrecord
        split at hrecord
        · cases hrecord
        · rename_i current hcurrent
          split at hrecord <;> cases hrecord
          exact (Authority.pendingRecord_key hcurrent).1
      simp [Phase.keys, hkey]
    · exact List.subset_cons_self _ _
  · rename_i key released rest hphase
    rw [hphase]
    exact List.subset_cons_self _ _
  · exact fun _ hkey => (by cases hkey)
  · exact fun _ hkey => hkey

theorem advance_keys {answer : Answer} {clock : Int} :
    (s.advance t answer clock).2.phase.keys ⊆ t.phase.keys := by
  unfold advance
  split
  · exact fun _ hkey => (by cases hkey)
  · rename_i record rest hphase
    rw [hphase]
    dsimp only
    split
    · exact List.subset_cons_self _ _
    · exact fun _ hkey => hkey
  · rename_i record rest hphase
    rw [hphase]
    exact fun _ hkey => hkey
  · rename_i result hphase
    exact fun _ hkey => hkey
  · split
    · exact fun _ hkey => (by cases hkey)
    · exact serialized_keys

theorem step_tasks {st : Step} : TasksOf s.tasks (s.step config st) := by
  cases st with
  | operation operation clock =>
    exact begin_tasks (tasksOf_same (a := s.authority)) fun b _ => tasksOf_same
  | register input clock now =>
    exact begin_tasks (tasksOf_same (a := s.authority)) fun b _ => startRegister_tasks
  | releaseLosers intentDigest now clock =>
    exact begin_tasks (tasksOf_same (a := s.authority)) fun b _ => startLosers_tasks
  | releaseIntent input leaseId now clock =>
    exact begin_tasks (tasksOf_same (a := s.authority)) fun b _ => startIntent_tasks
  | releaseSelected input now clock =>
    exact begin_tasks (tasksOf_same (a := s.authority)) fun b _ => startSelected_tasks
  | recover now clock =>
    exact begin_tasks (tasksOf_same (a := s.authority)) fun b _ => startRecovery_tasks
  | advance task answer clock =>
    simp only [step]
    split
    · exact tasksOf_same (a := s.authority)
    · rename_i t ht
      intro t' ht'
      rcases List.mem_or_eq_of_mem_set ht' with hold | rfl
      · exact Or.inl ⟨t', hold, fun _ hkey => hkey⟩
      · exact Or.inl ⟨t, List.mem_of_getElem? ht, advance_keys⟩

/-- Every step keeps the invariant. -/
theorem Sound.step (h : s.Sound) (st : Step) : (s.step config st).Sound := by
  have hchanges : ReflTransGen
      (Change ⟨config.limits, fun _ => True, s.authority.Releasable, True, True, fun _ => True⟩)
      s.authority (s.step config st).authority := by
    refine step_changes rfl (Step.permitted (fun _ _ => trivial) trivial trivial fun _ => trivial) ?_
    rintro key ⟨t, ht, hactive⟩
    exact h.tasks t ht key (Phase.active_mem hactive)
  have hkept := changes_kept h.authority h.held (fun _ hkey => hkey) hchanges
  refine ⟨hkept.sound, hkept.held, fun t ht key hkey => ?_⟩
  rcases step_tasks t ht with ⟨t', ht', hsub⟩ | hnew
  · exact hkept.releasable key (h.tasks t' ht' key (hsub hkey))
  · exact hnew key hkey

theorem Sound.run (h : s.Sound) (steps : List Step) : (Lib.run (System.step config) s steps).Sound :=
  run_invariant (fun _ st hs => hs.step st) steps h

/-! ## Two states of a run -/

/-- What holds between a state of a run and a later one, and of the later one's tasks. -/
structure Excludes (s s' : System) : Prop where
  /-- A selection that is confirmed stays, and a request is not both funded and released. -/
  requests : ∀ digest r, s.authority.requests.get? digest = some r →
    ∃ r', s'.authority.requests.get? digest = some r' ∧
      (∀ selection ∈ r.selection, r'.selection = some selection) ∧
      (r.state.isFunded = true → r'.state ≠ .released) ∧
      (r.state = .released → r'.state.isFunded = false)
  /-- A deal has one request, selection and reservation, and stays as it is. -/
  deals : ∀ d ∈ s.authority.deals.entries, s'.authority.deals.get? d.dealId = some d ∧
    ∃ r, s.authority.requests.get? d.binding.intentDigest = some r ∧ r.binding = d.binding ∧
      r.selection = some d.selection ∧ ∃ c,
        s.authority.records.get? ⟨d.binding.intentDigest, d.selection.pending⟩ = some c ∧
          d.selection.Matches c
  /-- The selected record is handed to a maker under the release lease of its request, or after its
  deal was bound. -/
  handed : ∀ t ∈ s'.tasks, ∀ record rest, t.phase = .calling record rest →
    ∀ r, s'.authority.requests.get? record.key.intentDigest = some r →
      ∀ selection ∈ r.selection, selection.pending = record.key.pending →
        r.Releases ∨ s'.authority.deals.get? r.binding.rfqId =
          some ⟨r.binding, r.binding.rfqId, selection⟩

/-- Records that are released, expired or consumed are so in a later state. -/
def KeepsFinal (s s' : System) : Prop :=
  ∀ key c, s.authority.records.get? key = some c → c.state.isFinal = true →
    s'.authority.records.get? key = some c

/-- A step that fills a reservation that is final already. -/
def Overfills (s : System) (st : Step) : Prop := ∃ c ∈ st.fills s.authority, c.state.isFinal = true

instance (s : System) (st : Step) : Decidable (s.Overfills st) :=
  inferInstanceAs (Decidable (∃ _ ∈ _, _))

theorem Sound.handed (h : s.Sound) (ht : t ∈ s.tasks) {record : Record} {rest : List Record}
    (hphase : t.phase = .calling record rest) {r : Request}
    (hr : s.authority.requests.get? record.key.intentDigest = some r) {selection : Selection}
    (hselection : selection ∈ r.selection) (hpending : selection.pending = record.key.pending) :
    r.Releases ∨ s.authority.deals.get? r.binding.rfqId =
      some ⟨r.binding, r.binding.rfqId, selection⟩ := by
  have hmem := (Table.get?_eq_some.mp hr).1
  have hexit : r.Releases ∨ r.state.isFunded = true := by
    obtain ⟨c, hc, hwhy⟩ := h.tasks t ht record.key (by rw [hphase]; exact List.mem_cons_self)
    rcases hwhy with hfree | ⟨q, hq, hwhy⟩
    · exact h.held _ r hr selection hselection c (hpending ▸ hc) hfree
    · rw [hr] at hq
      cases hq
      rcases hwhy with hreleases | hfunded | ⟨other, hother, hne⟩
      · exact Or.inl hreleases
      · exact Or.inr hfunded
      · rw [Option.mem_def.mp hselection] at hother
        cases hother
        exact absurd hpending hne
  refine hexit.imp id fun hfunded => ?_
  obtain ⟨d, hd, hbinding⟩ := h.authority.funded r hmem hfunded
  obtain ⟨hd', hid⟩ := Table.get?_eq_some.mp hd
  obtain ⟨q, hq, hdeal, hselected, -⟩ := h.authority.deals d hd'
  have hsame : q = r := by
    have hq' := Table.get?_mem hmem
    rw [hbinding, ← Request.intentDigest, hq'] at hq
    cases hq
    rfl
  subst hsame
  rw [Option.mem_def.mp hselection] at hselected
  rw [hd, hdeal, ← Option.some.inj hselected]

theorem Sound.continues (h : s.Sound) (steps : List Step) :
    s.authority.Continues (Lib.run (System.step config) s steps).authority := by
  induction steps generalizing s with
  | nil => exact .refl
  | cons st steps ih =>
    exact (h.authority.continues (any_changes s config st)).2.trans (ih (h.step st))

theorem Sound.excludes (h : s.Sound) (steps : List Step) :
    Excludes s (Lib.run (System.step config) s steps) where
  requests digest r hr := by
    obtain ⟨r', hr', hfollows⟩ := (h.continues steps).requests digest r hr
    refine ⟨r', hr', hfollows.selection, fun hfunded hreleased => ?_, fun hreleased => ?_⟩
    · have hfunded' := hfollows.funded hfunded
      rw [hreleased] at hfunded'
      cases hfunded'
    · rcases hfollows.released (Or.inr hreleased) with h' | h' <;> rw [h'] <;> rfl
  deals d hd := by
    refine ⟨(h.continues steps).deals _ d (Table.get?_mem hd), ?_⟩
    obtain ⟨r, hr, hdeal, hselection, -⟩ := h.authority.deals d hd
    have hbinding : d.binding = r.binding := congrArg Deal.binding hdeal
    obtain ⟨c, hc, hmatches, -⟩ := h.authority.selected r (Table.get?_eq_some.mp hr).1 _ hselection
    refine ⟨r, hr, hbinding.symm, hselection, c, ?_, hmatches⟩
    rw [hbinding]
    exact hc
  handed t ht record rest hphase r hr selection hselection hpending :=
    (h.run steps).handed ht hphase hr hselection hpending

theorem keepsFinal_step {st : Step} (hst : ¬ s.Overfills st) : KeepsFinal s (s.step config st) := by
  intro key c hc hfinal
  have hchanges : ReflTransGen
      (Change ⟨config.limits, fun c => c.state.isFinal = false, fun _ => True, True, True,
        fun _ => True⟩) s.authority (s.step config st).authority := by
    refine step_changes rfl (Step.permitted (fun c hfills => ?_) trivial trivial fun _ => trivial)
      fun _ _ => trivial
    exact Bool.eq_false_of_not_eq_true fun hfinal => hst ⟨c, hfills, hfinal⟩
  exact Authority.finals_kept (fun _ hfill => hfill) hchanges hc hfinal

theorem keepsFinal_run {steps : List Step}
    (h : Along (System.step config) (fun s st => ¬ s.Overfills st) s steps) :
    KeepsFinal s (Lib.run (System.step config) s steps) := by
  induction steps generalizing s with
  | nil => exact fun _ _ hc _ => hc
  | cons st steps ih =>
    exact fun key c hc hfinal => ih h.2 key c (keepsFinal_step h.1 key c hc hfinal) hfinal

end System

/-- In a run that fills no reservation that is final already, every two states exclude what they have
to. -/
theorem exclusions (config : Config) (earlier later : List Step)
    (h : Along (System.step config) (fun s st => ¬ s.Overfills st) System.empty (earlier ++ later)) :
    System.Excludes (run (System.step config) System.empty earlier)
        (run (System.step config) System.empty (earlier ++ later)) ∧
      System.KeepsFinal (run (System.step config) System.empty earlier)
        (run (System.step config) System.empty (earlier ++ later)) := by
  rw [run_append]
  exact ⟨(System.Sound.empty.run earlier).excludes later, System.keepsFinal_run (along_append h).2⟩

/-! ## A reservation that is released and then filled -/

def plainConfig : Config where
  localeCompare _ _ := .eq
  sha256 _ := Vector.replicate 32 0
  sameWire _ _ := true
  limits := defaultLimits

def sampleDigest (digit : Char) : Text := '0' :: 'x' :: List.replicate 64 digit

def sampleBinding : Binding :=
  ⟨sampleDigest '1', "0x5".toList, "0xa".toList, "sn_main".toList⟩

def samplePending : PendingSelection := ⟨sampleDigest '2', "maker".toList⟩

def sampleSelection : Selection := ⟨samplePending, "1".toList, sampleDigest '3'⟩

def sampleDeal : Deal := ⟨sampleBinding, "0x5".toList, sampleSelection⟩

def sampleTerms : SettlementTerms :=
  ⟨⟨"0x1".toList, "10".toList, "0x2".toList, "20".toList, 900⟩, "0x7".toList⟩

/-- One maker is asked, and its reservation is selected. -/
def selectSteps : List Step :=
  [.operation (.beginRequest ⟨sampleBinding, 10, 100, some "0x1/0x2".toList, ["maker".toList]⟩) 10,
    .register ⟨⟨sampleDigest '1', samplePending⟩, 200⟩ 11 11,
    .operation (.beginSelection (sampleDigest '1') samplePending) 12,
    .operation (.confirmSelection (sampleDigest '1') sampleSelection) 13]

def fundSteps : List Step :=
  [.operation (.authorizeFundingTicket sampleDeal "attempt".toList sampleTerms.terms) 14,
    .operation (.persistFundingTicket sampleDeal "attempt".toList sampleTerms) 15,
    .operation (.prepareFunding sampleDeal "attempt".toList sampleTerms) 16,
    .operation (.observeFunded sampleDeal "attempt".toList) 17]

/-- The maker releases the selected reservation of the funded deal. -/
def releaseSteps : List Step :=
  [.releaseSelected sampleDeal 18 18, .advance 0 .yes 19, .advance 0 .yes 20, .advance 0 .yes 21,
    .advance 0 .yes 22]

def fillStep : Step := .operation (.terminalize sampleDeal .filled) 23

theorem exclusions_filled :
    System.Excludes (run (System.step plainConfig) System.empty (selectSteps ++ fundSteps))
        (run (System.step plainConfig) System.empty ((selectSteps ++ fundSteps) ++ [fillStep])) ∧
      System.KeepsFinal (run (System.step plainConfig) System.empty (selectSteps ++ fundSteps))
        (run (System.step plainConfig) System.empty ((selectSteps ++ fundSteps) ++ [fillStep])) :=
  exclusions plainConfig (selectSteps ++ fundSteps) [fillStep] (by decide +kernel)

theorem filled_over_released :
    ¬ (System.Excludes
        (run (System.step plainConfig) System.empty (selectSteps ++ fundSteps ++ releaseSteps))
        (run (System.step plainConfig) System.empty
          (selectSteps ++ fundSteps ++ releaseSteps ++ [fillStep])) ∧ System.KeepsFinal
        (run (System.step plainConfig) System.empty (selectSteps ++ fundSteps ++ releaseSteps))
        (run (System.step plainConfig) System.empty
          (selectSteps ++ fundSteps ++ releaseSteps ++ [fillStep]))) := by
  rintro ⟨-, hkeeps⟩
  have hlater := hkeeps ⟨sampleDigest '1', samplePending⟩
    ⟨⟨sampleDigest '1', samplePending⟩, 200, .released, some ("1".toList, sampleDigest '3')⟩
    (by decide +kernel) rfl
  revert hlater
  decide +kernel

/-- In every state that is reached, an RFQ has one request; the request is funded exactly when the deal
under its RFQ id binds it with its selection; and a selection stands in a record that matches it. -/
theorem funded_iff_deal (config : Config) (steps : List Step) :
    let a := (run (System.step config) System.empty steps).authority
    ∀ r ∈ a.requests.entries,
      (∀ r' ∈ a.requests.entries, r.binding.rfqId = r'.binding.rfqId → r = r') ∧
      (r.state.isFunded = true ↔ ∃ s ∈ r.selection,
        a.deals.get? r.binding.rfqId = some ⟨r.binding, r.binding.rfqId, s⟩) ∧
      ∀ s ∈ r.selection, ∃ c, a.records.get? ⟨r.intentDigest, s.pending⟩ = some c ∧ s.Matches c := by
  intro a r hr
  have h : a.Sound := (System.Sound.empty.run steps).authority
  have hsame := Table.get?_mem hr
  refine ⟨h.rfqs r hr, ⟨fun hfunded => ?_, ?_⟩, fun s hs => ?_⟩
  · obtain ⟨d, hd, hbinding⟩ := h.funded r hr hfunded
    obtain ⟨q, hq, hdeal, hselection, -⟩ := h.deals d (Table.get?_eq_some.mp hd).1
    rw [hbinding] at hq
    cases hsame.symm.trans hq
    exact ⟨d.selection, hselection, hdeal ▸ hd⟩
  · rintro ⟨s, -, hd⟩
    obtain ⟨q, hq, -, -, hfunded⟩ := h.deals _ (Table.get?_eq_some.mp hd).1
    cases hsame.symm.trans hq
    exact hfunded
  · obtain ⟨c, hc, hmatches, -⟩ := h.selected r hr s hs
    exact ⟨c, hc, hmatches⟩

end App20.Coordinator
