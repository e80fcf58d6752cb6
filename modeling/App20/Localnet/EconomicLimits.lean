import App20.Localnet.EconomicEvaluation

/-!
# Daily limits of localnet RFQs

Runs in which each allowed evaluation is committed under its derived value at its decision time, with
restarts in between. When the decision times do not fall, a window that holds a commitment stays within
the limit; a window that holds none has the seed, which is whatever was configured.

* `Bounded.append`: one commitment at the end, for which there was room.
* `bounded_run`: the windows over a run.
* `snapshot_and_limits`: snapshots are the seed and the distinct commitments of a day, and windows with
  commitments are within the limits.
-/

namespace App20.Localnet

open App20.Lib App20.Domain
open App20.Intents (perMakerDailyCap perMarketDailyCap dailyWindowSeconds usdcBaseUnits)

/-! ## Windows of a list -/

/-- Every window that holds something is within the limit, together with the seed. -/
def Within (seed cap : Int) (value : Commitment → Int) (cs : List Commitment) : Prop :=
  ∀ t, heldAt cs value t = 0 ∨ seed + heldAt cs value t ≤ cap

variable {cs : List Commitment} {c : Commitment} {value : Commitment → Int} {t : Int}

theorem heldAt_cons (c : Commitment) (cs : List Commitment) (value : Commitment → Int) (t : Int) :
    heldAt (c :: cs) value t =
      (if t - dailyWindowSeconds < c.committedAt ∧ c.committedAt ≤ t then value c else 0) +
        heldAt cs value t := by
  unfold heldAt
  rw [List.filter_cons]
  by_cases h : t - dailyWindowSeconds < c.committedAt ∧ c.committedAt ≤ t
  · rw [if_pos (decide_eq_true h), if_pos h, List.map_cons, List.sum_cons]
  · rw [if_neg (by simpa using h), if_neg h, Int.zero_add]

theorem heldAt_append (cs : List Commitment) (c : Commitment) (value : Commitment → Int) (t : Int) :
    heldAt (cs ++ [c]) value t = heldAt cs value t +
      if t - dailyWindowSeconds < c.committedAt ∧ c.committedAt ≤ t then value c else 0 := by
  induction cs with
  | nil =>
    rw [List.nil_append, heldAt_cons]
    exact Int.add_comm _ _
  | cons d cs ih => rw [List.cons_append, heldAt_cons, heldAt_cons, ih, Int.add_assoc]

/-- Of commitments up to a time, a later window that reaches back to it holds no more. -/
theorem heldAt_le_of_le {s : Int} (hvalue : ∀ d ∈ cs, 0 ≤ value d) (hlast : ∀ d ∈ cs, d.committedAt ≤ s)
    (hst : s ≤ t) : heldAt cs value t ≤ heldAt cs value s := by
  induction cs with
  | nil => exact Int.le_refl _
  | cons d cs ih =>
    obtain ⟨hd, hcs⟩ := List.forall_mem_cons.mp hvalue
    obtain ⟨hds, hlast⟩ := List.forall_mem_cons.mp hlast
    have hrest := ih hcs hlast
    rw [heldAt_cons, heldAt_cons]
    split
    · rename_i hwindow
      rw [if_pos (by omega)]
      omega
    · split <;> omega

/-- A commitment at the end, which adds nothing to this value or for which there was room. -/
theorem Within.append {seed cap : Int} (h : Within seed cap value cs)
    (hvalue : ∀ d ∈ cs, 0 ≤ value d) (hlast : ∀ d ∈ cs, d.committedAt ≤ c.committedAt)
    (hroom : value c = 0 ∨ seed + (heldAt cs value c.committedAt + value c) ≤ cap) :
    Within seed cap value (cs ++ [c]) := by
  intro t
  rw [heldAt_append]
  split
  · rename_i hwindow
    rcases hroom with hzero | hroom
    · rw [hzero, Int.add_zero]
      exact h t
    · have hle := heldAt_le_of_le hvalue hlast hwindow.2
      right
      omega
  · rw [Int.add_zero]
    exact h t

/-- The windows of a list, for each maker and the market. -/
structure Bounded (options : EconomicsOptions) (cs : List Commitment) : Prop where
  positive : ∀ c ∈ cs, 0 < c.usdcEquivalentBaseUnits
  maker : ∀ makerId, Within options.makerSeed perMakerDailyCap (·.of makerId) cs
  market : Within options.marketSeed perMarketDailyCap (·.usdcEquivalentBaseUnits) cs

variable {options : EconomicsOptions}

theorem bounded_nil : Bounded options [] where
  positive _ hc := absurd hc List.not_mem_nil
  maker _ _ := .inl rfl
  market _ := .inl rfl

variable {makerId : Text} {decision : EvaluatedDecision}

theorem Commitment.of_nonneg (h : 0 < c.usdcEquivalentBaseUnits) : 0 ≤ c.of makerId := by
  unfold Commitment.of
  split <;> omega

theorem Bounded.append (h : Bounded options cs) (hpositive : 0 < c.usdcEquivalentBaseUnits)
    (hlast : ∀ d ∈ cs, d.committedAt ≤ c.committedAt)
    (hmaker : options.makerSeed + (heldAt cs (·.of c.makerId) c.committedAt +
      c.usdcEquivalentBaseUnits) ≤ perMakerDailyCap)
    (hmarket : options.marketSeed + (heldAt cs (·.usdcEquivalentBaseUnits) c.committedAt +
      c.usdcEquivalentBaseUnits) ≤ perMarketDailyCap) : Bounded options (cs ++ [c]) where
  positive d hd := by
    rw [List.mem_append, List.mem_singleton] at hd
    rcases hd with hd | rfl
    · exact h.positive d hd
    · exact hpositive
  maker makerId := by
    refine (h.maker makerId).append (fun d hd => Commitment.of_nonneg (h.positive d hd)) hlast ?_
    by_cases hid : makerId = c.makerId
    · rw [hid]
      have hof : c.of c.makerId = c.usdcEquivalentBaseUnits := if_pos rfl
      rw [hof]
      exact .inr hmaker
    · exact .inl (if_neg hid)
  market := h.market.append (fun d hd => (h.positive d hd).le) hlast (.inr hmarket)

/-! ## Runs of evaluations -/

structure Evaluation where
  scheduled : Bool
  input : Json
  commitmentId : Option Json
  append : Append

/-- An evaluation, committed if it is allowed, or the process starting again. -/
inductive TradeStep where
  | trade (q : Evaluation)
  | restart

variable (localeCompare : Text → Text → Ordering)

namespace Economics

def decide (e : Economics) (q : Evaluation) : Except String EvaluatedDecision × Economics :=
  if q.scheduled then e.evaluateSchedule q.input else e.evaluate q.input

def permits (e : Economics) (q : Evaluation) : Option EvaluatedDecision :=
  (e.decide q).1.toOption.filter fun decision => decision.decision.allowed

def trade (e : Economics) (q : Evaluation) : Economics :=
  match e.permits q with
  | some decision =>
    ((e.decide q).2.commit localeCompare (q.input.get? "makerId")
      (decision.derivedUsdcEquivalentBaseUnits.map .bigint) (q.input.get? "decisionAt")
      q.commitmentId q.append).2
  | none => (e.decide q).2

def tradeStep (e : Economics) : TradeStep → Economics
  | .trade q => e.trade localeCompare q
  | .restart => e.restart

def tradeTime (e : Economics) (q : Evaluation) : Option Int :=
  match e.permits q, q.input.get? "decisionAt" with
  | some _, some (.number t) => some t
  | _, _ => none

def committedTime (e : Economics) : TradeStep → Option Int
  | .trade q => e.tradeTime q
  | .restart => none

def committedTimes : Economics → List TradeStep → List Int
  | _, [] => []
  | e, s :: steps => (e.committedTime s).toList ++ committedTimes (e.tradeStep localeCompare s) steps

end Economics

/-! ## Limits -/

variable {localeCompare} {e : Economics} {l : Ledger}

variable {q : Evaluation}

theorem permits_permitted (h : e.permits q = some decision) :
    ∃ makerId value t, Permitted e q.input decision makerId value t := by
  obtain ⟨hok, hallowed⟩ := Option.filter_eq_some_iff.mp h
  have hok : (e.decide q).1 = .ok decision := by
    cases hresult : (e.decide q).1 with
    | error reason =>
      rw [hresult] at hok
      cases hok
    | ok d =>
      rw [hresult] at hok
      cases hok
      rfl
  unfold Economics.decide at hok
  split at hok
  · exact evaluateSchedule_allowed hok hallowed
  · exact evaluate_allowed hok hallowed

/-- Deciding leaves what the ledger has. -/
theorem decide_simulates (h : Simulates e l) (q : Evaluation) :
    Simulates (e.decide q).2 l ∧ (e.decide q).2.options = e.options := by
  have hstate : (e.decide q).2 = e ∨ (e.decide q).2 = { e with suspended := true } := by
    unfold Economics.decide
    split
    · exact evaluateSchedule_state e q.input
    · exact evaluate_state e q.input
  rcases hstate with hstate | hstate
  · rw [hstate]
    exact ⟨h, rfl⟩
  · rw [hstate]
    exact ⟨⟨h.failed, h.holds, h.byId, h.sound, h.allIdentified, h.journalSound, h.journalNodup,
      h.journal⟩, rfl⟩

/-- A commitment leaves both lists as they are, or the longer list in one or both of them. -/
theorem Ledger.commit_cases (l : Ledger) (durable : Bool)
    (makerId amount decisionAt commitmentId : Option Json) (append : Append) :
    l.commit durable makerId amount decisionAt commitmentId append = l ∨
      ∃ c l', Economics.readCommitment durable makerId amount decisionAt commitmentId = .ok c ∧
        l.commit durable makerId amount decisionAt commitmentId append = l' ∧
        (l'.commitments = l.commitments ∨ l'.commitments = l.commitments ++ [c]) ∧
        (l'.journal = l.journal ∨ l'.journal = l.commitments ++ [c]) := by
  unfold Ledger.commit
  split
  · exact .inl rfl
  · split
    · exact .inl rfl
    · rename_i c hc
      split
      · refine .inr ⟨c, _, hc, rfl, ?_⟩
        unfold Ledger.add
        split
        · exact ⟨.inr rfl, .inl rfl⟩
        · cases append with
          | done => exact ⟨.inr rfl, .inr rfl⟩
          | lost => exact ⟨.inl rfl, .inl rfl⟩
          | kept => exact ⟨.inl rfl, .inr rfl⟩
      · exact .inl rfl

/-- What the ledger has in memory and in the journal is within the limits. -/
structure Ledger.Bounded (options : EconomicsOptions) (l : Ledger) : Prop where
  commitments : Localnet.Bounded options l.commitments
  journal : Localnet.Bounded options l.journal

/-- What the ledger has, in memory or in the journal. -/
def Ledger.Has (l : Ledger) (c : Commitment) : Prop := c ∈ l.commitments ∨ c ∈ l.journal

section

variable {value t : Int} (h : e.permits q = some decision)
  (hpermitted : Permitted e q.input decision makerId value t)

include h hpermitted

theorem tradeTime_of_permitted : e.tradeTime q = some t := by
  unfold Economics.tradeTime
  rw [h, hpermitted.time]

theorem trade_of_permitted :
    e.trade localeCompare q = ((e.decide q).2.commit localeCompare (some (.string makerId))
      (some (.bigint value)) (some (.number t)) q.commitmentId q.append).2 := by
  unfold Economics.trade
  rw [h]
  dsimp only
  rw [hpermitted.maker, hpermitted.derived, hpermitted.time]
  rfl

end

/-- The room that a snapshot leaves is room in the ledger. -/
theorem room_of_permitted {input : Json} {value t : Int} (h : Simulates e l)
    (hpermitted : Permitted e input decision makerId value t) :
    e.options.makerSeed + (heldAt l.commitments (·.of makerId) t + value) ≤ perMakerDailyCap ∧
      e.options.marketSeed + (heldAt l.commitments (·.usdcEquivalentBaseUnits) t + value) ≤
        perMarketDailyCap := by
  obtain ⟨marketId, snapshot, hsnapshot, hmaker, hmarket⟩ := hpermitted.room
  have hopen : e.failed = false := by
    by_contra hfailed
    unfold Economics.snapshotAccounting throwIf at hsnapshot
    rw [if_pos (Bool.not_eq_false _ ▸ hfailed)] at hsnapshot
    cases hsnapshot
  cases (snapshot_of_simulates h hopen t makerId marketId).symm.trans hsnapshot
  rw [← Int.add_assoc, ← Int.add_assoc]
  exact ⟨hmaker, hmarket⟩

/-- A commitment for which there was room, of a time that no other one is later than. -/
theorem bounded_commit {options : EconomicsOptions} {durable : Bool} {value t : Int}
    (hbounded : l.Bounded options) (hlast : ∀ c, l.Has c → c.committedAt ≤ t)
    (hmaker : options.makerSeed + (heldAt l.commitments (·.of makerId) t + value) ≤
      perMakerDailyCap)
    (hmarket : options.marketSeed + (heldAt l.commitments (·.usdcEquivalentBaseUnits) t + value) ≤
      perMarketDailyCap) (commitmentId : Option Json) (append : Append) :
    (l.commit durable (some (.string makerId)) (some (.bigint value)) (some (.number t))
        commitmentId append).Bounded options ∧
      ∀ c, (l.commit durable (some (.string makerId)) (some (.bigint value)) (some (.number t))
        commitmentId append).Has c → l.Has c ∨ c.committedAt = t := by
  rcases l.commit_cases durable (some (.string makerId)) (some (.bigint value)) (some (.number t))
    commitmentId append with hsame | ⟨c, l', hread, hcommit, hcommitments, hjournal⟩
  · rw [hsame]
    exact ⟨hbounded, fun c hc => .inl hc⟩
  · rw [hcommit]
    obtain ⟨-, -, hid, hvalue, hpositive, htime⟩ := readCommitment_ok hread
    cases hid
    cases hvalue
    cases htime
    have hlonger : Localnet.Bounded options (l.commitments ++ [c]) :=
      hbounded.commitments.append hpositive (fun d hd => hlast d (.inl hd)) hmaker hmarket
    have hmem {d : Commitment} (hd : d ∈ l.commitments ++ [c]) :
        l.Has d ∨ d.committedAt = c.committedAt := by
      rw [List.mem_append, List.mem_singleton] at hd
      rcases hd with hd | rfl
      · exact .inl (.inl hd)
      · exact .inr rfl
    refine ⟨⟨?_, ?_⟩, fun d hd => ?_⟩
    · rcases hcommitments with hsame | hsame
      · exact hsame ▸ hbounded.commitments
      · exact hsame ▸ hlonger
    · rcases hjournal with hsame | hsame
      · exact hsame ▸ hbounded.journal
      · exact hsame ▸ hlonger
    · rcases hd with hd | hd
      · rcases hcommitments with hsame | hsame
        · exact .inl (.inl (hsame ▸ hd))
        · exact hmem (hsame ▸ hd)
      · rcases hjournal with hsame | hsame
        · exact .inl (.inr (hsame ▸ hd))
        · exact hmem (hsame ▸ hd)

theorem bounded_trade (h : Simulates e l) (hbounded : l.Bounded e.options) (q : Evaluation)
    (hlast : ∀ t ∈ e.tradeTime q, ∀ c, l.Has c → c.committedAt ≤ t) :
    ∃ l', Simulates (e.trade localeCompare q) l' ∧
      (e.trade localeCompare q).options = e.options ∧ l'.Bounded e.options ∧
      ∀ c, l'.Has c → l.Has c ∨ c.committedAt ∈ e.tradeTime q := by
  obtain ⟨hdecided, hoptions⟩ := decide_simulates h q
  cases hpermits : e.permits q with
  | none =>
    have htrade : e.trade localeCompare q = (e.decide q).2 := by
      unfold Economics.trade
      rw [hpermits]
    rw [htrade]
    exact ⟨l, hdecided, hoptions, hbounded, fun c hc => .inl hc⟩
  | some decision =>
    obtain ⟨makerId, value, t, hpermitted⟩ := permits_permitted hpermits
    obtain ⟨hmaker, hmarket⟩ := room_of_permitted h hpermitted
    have htime := tradeTime_of_permitted hpermits hpermitted
    rw [trade_of_permitted hpermits hpermitted]
    obtain ⟨hbounded', hmem⟩ := bounded_commit hbounded
      (hlast t htime) hmaker hmarket q.commitmentId q.append
    refine ⟨_, hdecided.commit _ _ _ _ _, ?_, hbounded', fun c hc => ?_⟩
    · exact (step_options (e.decide q).2 (.commit _ _ _ _ _)).trans hoptions
    · refine (hmem c hc).imp_right fun hequal => ?_
      rw [htime, hequal]
      rfl

theorem bounded_restart (h : Simulates e l) (hbounded : l.Bounded e.options) :
    ∃ l', Simulates e.restart l' ∧ e.restart.options = e.options ∧ l'.Bounded e.options ∧
      ∀ c, l'.Has c → l.Has c := by
  have hoptions : (e.step (fun _ _ => .eq) .restart).options = e.options := step_options e .restart
  refine ⟨_, h.restart, hoptions, ?_⟩
  unfold Ledger.restart
  split
  · exact ⟨hbounded, fun c hc => hc⟩
  · exact ⟨⟨hbounded.journal, hbounded.journal⟩, fun c hc => .inr (hc.elim id id)⟩

/-- The windows stay within the limits over a run whose decision times do not fall. -/
theorem bounded_run {steps : List TradeStep} : ∀ {e : Economics} {l : Ledger}, Simulates e l →
    l.Bounded e.options →
    (∀ t ∈ e.committedTimes localeCompare steps, ∀ c, l.Has c → c.committedAt ≤ t) →
    (e.committedTimes localeCompare steps).Pairwise (· ≤ ·) →
    ∃ l', Simulates (run (Economics.tradeStep localeCompare) e steps) l' ∧
      (run (Economics.tradeStep localeCompare) e steps).options = e.options ∧
      l'.Bounded e.options := by
  induction steps with
  | nil => exact fun {e l} h hbounded _ _ => ⟨l, h, rfl, hbounded⟩
  | cons s steps ih =>
    intro e l h hbounded hlast hpairwise
    rw [Economics.committedTimes] at hlast hpairwise
    obtain ⟨-, hrest, hbefore⟩ := List.pairwise_append.mp hpairwise
    -- the ledger after the step, and its times against those that are still to come
    have hstep : ∃ l', Simulates (e.tradeStep localeCompare s) l' ∧
        (e.tradeStep localeCompare s).options = e.options ∧ l'.Bounded e.options ∧
        ∀ c, l'.Has c → l.Has c ∨ c.committedAt ∈ e.committedTime s := by
      cases s with
      | trade q =>
        exact bounded_trade h hbounded q fun t ht c hc =>
          hlast t (List.mem_append_left _ (Option.mem_toList.mpr ht)) c hc
      | restart =>
        obtain ⟨l', hl', hoptions, hbounded', hmem⟩ := bounded_restart h hbounded
        exact ⟨l', hl', hoptions, hbounded', fun c hc => .inl (hmem c hc)⟩
    obtain ⟨l', hl', hoptions, hbounded', hmem⟩ := hstep
    rw [run_cons, ← hoptions]
    refine ih hl' (hoptions.symm ▸ hbounded') (fun t ht c hc => ?_) hrest
    rcases hmem c hc with hold | hnew
    · exact hlast t (List.mem_append_right _ ht) c hold
    · exact hbefore _ (Option.mem_toList.mpr hnew) t ht

/-- What an instance without a journal starts with. -/
def freshEconomics (options : EconomicsOptions) : Economics :=
  ⟨options, options.suspended, Index.empty, Table.empty, false, none⟩

theorem simulates_fresh (options : EconomicsOptions) :
    Simulates (freshEconomics options) Ledger.empty := by
  obtain ⟨e, he, -, hsimulates⟩ := Simulates.create options
  have hfresh : createLocalnetRfqEconomics options none = .ok (freshEconomics options) := by
    unfold createLocalnetRfqEconomics
    split <;> rfl
  cases hfresh.symm.trans he
  exact hsimulates

/-- A snapshot after any sequence of commitments and restarts is the seed and the sum of the distinct
commitments of the day before. Over every run in which allowed evaluations are committed, with decision
times that do not fall, a window with commitments is within the limits, and one without has the seed. -/
theorem snapshot_and_limits (localeCompare : Text → Text → Ordering) (options : EconomicsOptions) :
    createLocalnetRfqEconomics options none = .ok (freshEconomics options) ∧
    (∀ (ops : List Operation) (t : Int) (makerId marketId : Text),
      let l := run (Ledger.step options.durable) Ledger.empty ops
      (run (Economics.step localeCompare) (freshEconomics options) ops).snapshotAccounting t
          (some (.string makerId)) marketId = if l.failed then .error Economics.failStopped
        else .ok {
          window := trailingWindow t, marketId, makerId := some (.string makerId), observedAt := t
          makerCommittedUsdcBaseUnits := options.makerSeed + heldAt l.commitments (·.of makerId) t
          marketCommittedUsdcBaseUnits :=
            options.marketSeed + heldAt l.commitments (·.usdcEquivalentBaseUnits) t }) ∧
    ∀ steps : List TradeStep,
      ((freshEconomics options).committedTimes localeCompare steps).Pairwise (· ≤ ·) →
      ∀ (t : Int) (makerId marketId : Text) (snapshot : AccountingSnapshot),
        (run (Economics.tradeStep localeCompare) (freshEconomics options) steps).snapshotAccounting t
          (some (.string makerId)) marketId = .ok snapshot →
        (snapshot.makerCommittedUsdcBaseUnits = options.makerSeed ∨
          snapshot.makerCommittedUsdcBaseUnits ≤ perMakerDailyCap) ∧
        (snapshot.marketCommittedUsdcBaseUnits = options.marketSeed ∨
          snapshot.marketCommittedUsdcBaseUnits ≤ perMarketDailyCap) := by
  have hfresh := simulates_fresh options
  refine ⟨?_, fun ops t makerId marketId => ?_, fun steps hpairwise t makerId marketId snapshot h => ?_⟩
  · unfold createLocalnetRfqEconomics
    split <;> rfl
  · obtain ⟨hsimulates, hoptions⟩ := simulates_run hfresh ops
    change Simulates _ (run (Ledger.step options.durable) Ledger.empty ops) at hsimulates
    dsimp only
    cases hfailed : (run (Ledger.step options.durable) Ledger.empty ops).failed with
    | true =>
      unfold Economics.snapshotAccounting throwIf
      rw [if_pos (hsimulates.failed.trans hfailed), if_pos rfl]
      rfl
    | false =>
      rw [snapshot_of_simulates hsimulates (hsimulates.failed.trans hfailed), hoptions]
      rfl
  · obtain ⟨l, hsimulates, hoptions, hbounded⟩ := bounded_run hfresh ⟨bounded_nil, bounded_nil⟩
      (fun _ _ c hc => hc.elim (fun h => absurd h List.not_mem_nil) fun h => absurd h List.not_mem_nil)
      hpairwise
    have hopen : (run (Economics.tradeStep localeCompare) (freshEconomics options) steps).failed =
        false := by
      by_contra hfailed
      unfold Economics.snapshotAccounting throwIf at h
      rw [if_pos (Bool.not_eq_false _ ▸ hfailed)] at h
      cases h
    cases (snapshot_of_simulates hsimulates hopen t makerId marketId).symm.trans h
    rw [hoptions]
    refine ⟨?_, ?_⟩
    · rcases hbounded.commitments.maker makerId t with hzero | hle
      · exact .inl (by rw [hzero]; exact Int.add_zero _)
      · exact .inr hle
    · rcases hbounded.commitments.market t with hzero | hle
      · exact .inl (by rw [hzero]; exact Int.add_zero _)
      · exact .inr hle

/-! ## Seeds above the limit -/

/-- A fixture that is configured above both limits. -/
def crowdedOptions : EconomicsOptions where
  unapprovedFixtureAccounting := some (.object [
    ("makerCommittedUsdcBaseUnits", .bigint (30000 * usdcBaseUnits)),
    ("marketCommittedUsdcBaseUnits", .bigint (60000 * usdcBaseUnits))])
  durable := false
  suspended := false

/-- Before anything is committed the window of any maker holds more than the limits. -/
theorem limits_exceeded_by_seeds : ∃ snapshot,
    createLocalnetRfqEconomics crowdedOptions none = .ok (freshEconomics crowdedOptions) ∧
      ((freshEconomics crowdedOptions).committedTimes (fun _ _ => .eq) []).Pairwise (· ≤ ·) ∧
      (run (Economics.tradeStep fun _ _ => .eq) (freshEconomics crowdedOptions) []).snapshotAccounting
        2000000000 (some (.string "maker-a".toList)) Intents.reviewedMarketId = .ok snapshot ∧
      perMakerDailyCap < snapshot.makerCommittedUsdcBaseUnits ∧
      perMarketDailyCap < snapshot.marketCommittedUsdcBaseUnits :=
  ⟨_, rfl, List.Pairwise.nil, rfl, by decide, by decide⟩

end App20.Localnet
