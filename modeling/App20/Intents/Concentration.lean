import App20.Intents.EconomicRuns

/-!
# The share of a single maker

What the share of a maker decides when a proposal is within every other limit. The share counts the
proposed trade, so that the first maker of a window would have all of the market.

* `share_decides`: a proposal within every other limit is allowed if and only if its maker keeps
  within the share.
* `start_needs_other_makers`: from empty counters no proposal is ever allowed.
-/

namespace App20.Intents

open App20.Lib App20.Domain

/-! ## Reasons -/

def OnlyShare (reasons : List Reason) : Prop :=
  ∀ r ∈ reasons, r.code = .singleMakerConcentrationExceeded

instance (reasons : List Reason) : Decidable (OnlyShare reasons) :=
  inferInstanceAs (Decidable (∀ r ∈ reasons, _))

def NoShare (reasons : List Reason) : Prop :=
  ∀ r ∈ reasons, r.code ≠ .singleMakerConcentrationExceeded

theorem onlyShare_append {l l' : List Reason} :
    OnlyShare (l ++ l') ↔ OnlyShare l ∧ OnlyShare l' := by
  unfold OnlyShare
  exact List.forall_mem_append

theorem noShare_append {l l' : List Reason} : NoShare (l ++ l') ↔ NoShare l ∧ NoShare l' := by
  unfold NoShare
  exact List.forall_mem_append

theorem noShare_nil : NoShare [] := fun _ h => (List.not_mem_nil h).elim

theorem noShare_singleton {r : Reason} (h : r.code ≠ .singleMakerConcentrationExceeded) :
    NoShare [r] := by
  intro r' hr'
  rw [List.mem_singleton.mp hr']
  exact h

theorem noShare_refuseIf {c : Prop} [Decidable c] {code : RejectionCode} {message : String}
    (h : code ≠ .singleMakerConcentrationExceeded) : NoShare (refuseIf c code message) := by
  unfold refuseIf
  split
  · exact noShare_singleton h
  · exact noShare_nil

theorem NoShare.eq_nil {l : List Reason} (h : NoShare l) (honly : OnlyShare l) : l = [] := by
  apply List.eq_nil_iff_forall_not_mem.mpr
  intro r hr
  exact h r hr (honly r hr)

/-! ## The other limits -/

theorem assessMarket_noShare (input : Json) : NoShare (assessMarket input).2 := by
  unfold assessMarket
  split
  · exact noShare_singleton (by decide)
  · dsimp only
    split
    · exact noShare_singleton (by decide)
    · split
      · exact noShare_singleton (by decide)
      · exact noShare_append.mpr ⟨noShare_refuseIf (by decide), noShare_refuseIf (by decide)⟩

theorem referenceReasons_noShare (reference : Reference) (now : Int) (marketId : Option Text) :
    NoShare (referenceReasons reference now marketId) := by
  unfold referenceReasons
  simp only [noShare_append]
  refine ⟨⟨⟨noShare_refuseIf (by decide), noShare_refuseIf (by decide)⟩,
    noShare_refuseIf (by decide)⟩, ?_⟩
  split
  · exact noShare_singleton (by decide)
  · exact noShare_refuseIf (by decide)

theorem assessReference_noShare (input : Json) (decisionAt : Option Int) (marketId : Option Text) :
    NoShare (assessReference input decisionAt marketId).2 := by
  unfold assessReference
  dsimp only
  split
  · exact noShare_singleton (by decide)
  · split
    · exact noShare_singleton (by decide)
    · split
      · exact noShare_singleton (by decide)
      · exact referenceReasons_noShare _ _ _

theorem proposalReasons_noShare (proposal : EconomicProposal) (marketId : Option Text)
    (reference : Option Reference) : NoShare (proposalReasons proposal marketId reference) := by
  unfold proposalReasons
  simp only [noShare_append]
  exact ⟨⟨⟨⟨⟨noShare_refuseIf (by decide), noShare_refuseIf (by decide)⟩,
    noShare_refuseIf (by decide)⟩, noShare_refuseIf (by decide)⟩, noShare_refuseIf (by decide)⟩,
    noShare_refuseIf (by decide)⟩

theorem priceReasons_noShare (proposal : EconomicProposal) (reference : Reference) :
    NoShare (priceReasons proposal reference) := by
  unfold priceReasons
  simp only [noShare_append]
  refine ⟨⟨⟨⟨noShare_refuseIf (by decide), noShare_refuseIf (by decide)⟩,
    noShare_refuseIf (by decide)⟩, noShare_refuseIf (by decide)⟩, ?_⟩
  split
  · exact noShare_append.mpr ⟨noShare_refuseIf (by decide), noShare_refuseIf (by decide)⟩
  · exact noShare_singleton (by decide)

theorem assessProposal_noShare (input : Json) (marketId : Option Text)
    (reference : Option Reference) : NoShare (assessProposal input marketId reference).2 := by
  unfold assessProposal
  split
  · exact noShare_singleton (by decide)
  · split
    · exact noShare_singleton (by decide)
    · refine noShare_append.mpr ⟨proposalReasons_noShare _ _ _, ?_⟩
      split
      · exact noShare_nil
      · exact priceReasons_noShare _ _

theorem capReasons_onlyShare {accounting : Accounting} {value : Int}
    (h : OnlyShare (capReasons accounting value)) :
    capReasons accounting value = [] ↔ (accounting.makerCommittedUsdcBaseUnits + value) * bpsScale ≤
        (accounting.marketCommittedUsdcBaseUnits + value) * singleMakerConcentrationBps := by
  unfold capReasons at h ⊢
  simp only [onlyShare_append] at h
  have hmaker := (noShare_refuseIf (by decide)).eq_nil h.1.1
  have hmarket := (noShare_refuseIf (by decide)).eq_nil h.1.2
  dsimp only
  rw [hmaker, hmarket, List.nil_append, List.nil_append, refuseIf_eq_nil, Int.not_lt]

theorem assessAccounting_onlyShare {input : Json} {decisionAt : Option Int}
    {marketId : Option Text} {proposal : EconomicProposal} {value : Int}
    (h : OnlyShare (assessAccounting input decisionAt marketId (some proposal) (some value))) :
    ∃ json accounting now, input.get? "accounting" = some json ∧
      readAccounting json decisionAt = some (accounting, now) ∧
      accounting.makerId = proposal.makerId ∧ OnlyShare (capReasons accounting value) ∧
      assessAccounting input decisionAt marketId (some proposal) (some value) =
        capReasons accounting value := by
  unfold assessAccounting at h ⊢
  split at h
  · exact absurd (noShare_singleton (by decide) |>.eq_nil h) (by simp)
  · rename_i json hjson
    split at h
    · exact absurd (noShare_singleton (by decide) |>.eq_nil h) (by simp)
    · rename_i accounting now hread
      dsimp only at h
      simp only [onlyShare_append] at h
      have hstale := (noShare_refuseIf (by decide)).eq_nil h.1.1.1
      have hmarket := (noShare_refuseIf (by decide)).eq_nil h.1.1.2
      have hsame := (noShare_refuseIf (by decide)).eq_nil h.1.2.1
      have hmaker := (noShare_refuseIf (by decide)).eq_nil h.1.2.2
      refine ⟨json, accounting, now, present_eq_some hjson, hread, ?_, h.2, ?_⟩
      · exact not_not.mp (refuseIf_eq_nil.mp hmaker)
      · dsimp only
        rw [hstale, hmarket, hsame, hmaker]
        rfl

/-! ## The share decides -/

/-- The trade of an input and the accounting window that it is checked against. -/
structure Proposed (input : Json) (accounting : Accounting) (makerId : Text) (value : Int) :
    Prop where
  trade : tradeOf input = some (makerId, value)
  window : ∃ json now decisionAt, input.get? "accounting" = some json ∧
    readAccounting json decisionAt = some (accounting, now)
  maker : accounting.makerId = makerId
  positive : 0 < value

theorem assess_onlyShare {input : Json} (h : OnlyShare (assess input).reasons) :
    ∃ accounting makerId value, Proposed input accounting makerId value ∧
      ((assess input).reasons = [] ↔ (accounting.makerCommittedUsdcBaseUnits + value) * bpsScale ≤
          (accounting.marketCommittedUsdcBaseUnits + value) * singleMakerConcentrationBps) := by
  unfold assess at h ⊢
  dsimp only at h ⊢
  simp only [onlyShare_append] at h
  obtain ⟨⟨⟨⟨⟨hnetwork, htime⟩, hmarket⟩, hreference⟩, hproposal⟩, haccounting⟩ := h
  have hnetwork := (noShare_refuseIf (by decide)).eq_nil hnetwork
  have htime := (noShare_refuseIf (by decide)).eq_nil htime
  have hmarket := (assessMarket_noShare input).eq_nil hmarket
  have hreference := (assessReference_noShare _ _ _).eq_nil hreference
  have hproposal := (assessProposal_noShare _ _ _).eq_nil hproposal
  have hothers := hproposal
  obtain ⟨reference, hfirst⟩ := assessReference_nil hreference
  obtain ⟨hsell, hbuy⟩ := assessReference_pos hfirst
  rw [hfirst] at hproposal haccounting
  obtain ⟨proposal, hread, hprice⟩ := assessProposal_nil hproposal
  obtain ⟨value, hvalue, -⟩ := priceReasons_nil hprice
  rw [hread, Option.bind_some, Option.bind_some, hvalue] at haccounting
  obtain ⟨json, accounting, now, hjson, hwindow, hmaker, hcaps, heq⟩ :=
    assessAccounting_onlyShare haccounting
  refine ⟨accounting, proposal.makerId, value,
    ⟨?_, ⟨json, now, _, hjson, hwindow⟩, hmaker, derivedUsdc_pos hsell hbuy hvalue⟩, ?_⟩
  · unfold tradeOf assess
    dsimp only
    rw [hfirst, hread, Option.bind_some, Option.bind_some, hvalue]
  · rw [hnetwork, htime, hmarket, hreference, hothers, hfirst, hread, Option.bind_some,
      Option.bind_some, hvalue, heq]
    exact capReasons_onlyShare hcaps

/-- A proposal within every other limit is allowed if and only if its maker keeps within the share
of the market, the proposed trade included. -/
theorem share_decides {input : Json} (h : OnlyShare (evaluateRfqEconomicPolicy input).reasons) :
    ∃ accounting makerId value, Proposed input accounting makerId value ∧
      ((evaluateRfqEconomicPolicy input).allowed = true ↔
        (accounting.makerCommittedUsdcBaseUnits + value) * bpsScale ≤
          (accounting.marketCommittedUsdcBaseUnits + value) * singleMakerConcentrationBps) := by
  unfold evaluateRfqEconomicPolicy at h ⊢
  dsimp only at h ⊢
  split at h
  · exact absurd ((noShare_singleton (by decide)).eq_nil h) (by simp)
  · rename_i hsupported
    rw [if_neg hsupported]
    split at h
    · have hlast := (onlyShare_append.mp h).2
      exact absurd ((noShare_singleton (by decide)).eq_nil hlast) (by simp)
    · rename_i hrecovery
      rw [if_neg hrecovery]
      obtain ⟨accounting, makerId, value, hproposed, hiff⟩ := assess_onlyShare h
      exact ⟨accounting, makerId, value, hproposed, List.isEmpty_iff.trans hiff⟩

theorem propose_empty (request : Json) : propose Counters.empty request = Counters.empty := by
  unfold propose
  rw [first_trade_refused, if_neg Bool.false_ne_true]

/-- A proposal within every other limit is allowed exactly within the share of its maker. From empty
counters none is allowed, whatever was proposed before. -/
theorem start_needs_other_makers :
    (∀ input, OnlyShare (evaluateRfqEconomicPolicy input).reasons →
      ∃ accounting makerId value, Proposed input accounting makerId value ∧
        ((evaluateRfqEconomicPolicy input).allowed = true ↔
          (accounting.makerCommittedUsdcBaseUnits + value) * bpsScale ≤
            (accounting.marketCommittedUsdcBaseUnits + value) * singleMakerConcentrationBps)) ∧
      ∀ requests request, run propose Counters.empty requests = Counters.empty ∧
        (evaluateRfqEconomicPolicy
          (supply (run propose Counters.empty requests) request)).allowed = false := by
  refine ⟨fun input h => share_decides h, fun requests request => ?_⟩
  have hrun : run propose Counters.empty requests = Counters.empty :=
    run_invariant (I := fun c => c = Counters.empty) (fun c r h => h ▸ propose_empty r) requests rfl
  rw [hrun]
  exact ⟨rfl, first_trade_refused request⟩

/-- The largest quote is within its share after the trades of two makers, and not before them. -/
theorem start_needs_other_makers_largest :
    OnlyShare (evaluateRfqEconomicPolicy (supply twoMakers largestQuote)).reasons ∧
      ∃ accounting makerId value, Proposed (supply twoMakers largestQuote) accounting makerId value ∧
        ((evaluateRfqEconomicPolicy (supply twoMakers largestQuote)).allowed = true ↔
          (accounting.makerCommittedUsdcBaseUnits + value) * bpsScale ≤
            (accounting.marketCommittedUsdcBaseUnits + value) * singleMakerConcentrationBps) := by
  have h : OnlyShare (evaluateRfqEconomicPolicy (supply twoMakers largestQuote)).reasons := by
    decide +kernel
  exact ⟨h, start_needs_other_makers.1 _ h⟩

/-- From empty counters the share alone refuses the largest quote. -/
theorem first_quote_refused :
    OnlyShare (evaluateRfqEconomicPolicy (supply Counters.empty largestQuote)).reasons ∧
      (evaluateRfqEconomicPolicy (supply Counters.empty largestQuote)).allowed = false := by
  decide +kernel

end App20.Intents
