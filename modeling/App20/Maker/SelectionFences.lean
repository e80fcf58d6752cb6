import App20.Maker.Authorities

/-!
# The fence of a selection

`selectionFenceForReconciliation` computes the fence of a selection from the present record: what an
authority has said of it, or else the fence less the transitions since.

* `Anchored.change`: no change of a record changes the fence that is computed.
* `selection_fence_kept`: it is the one that `select` returned, unless the reservation was released.
-/

namespace App20.Maker

open App20.Lib App20.Lib.Exec App20.Domain
open App20.Reservation (MakerReservation StoredReservation QuarantineReason ReservationCommand
  Transitioned)

section

variable {config : Config} {powers : Powers} {r c : StoredReservation} {n m : MakerReservation}
  {spoken : Option Int} {fence : Int} {input : AuthorityRequest}

/-! ## The two sources of the fence -/

/-- The fence that an authority has named. -/
def spokenFence (r : StoredReservation) : Option Int :=
  (r.terminalReconciliation.map (·.binding.selectionFence)).or
    (r.authorityQuarantine.map (·.binding.selectionFence))

def stateFence (n : MakerReservation) : Option Int :=
  match n.state with
  | .selected => some n.fence
  | .filling => some (n.fence - 1)
  | .consumed => some (n.fence - 2)
  | .quarantined => some (n.fence - if n.settlementAttemptId.isSome then 2 else 1)
  | .reserved | .released | .expired => none

theorem selectionFence_ok_iff :
    selectionFenceForReconciliation r = .ok fence ↔
      (spokenFence r).or (stateFence r.reservation) = some fence := by
  unfold selectionFenceForReconciliation spokenFence stateFence
  cases r.terminalReconciliation with
  | some t => simp
  | none =>
    cases r.authorityQuarantine with
    | some q => simp
    | none => cases r.reservation.state <;> simp

theorem selectionFence_error (hspoken : spokenFence r = none)
    (hstate : stateFence r.reservation = none) :
    ∃ e, selectionFenceForReconciliation r = .error e := by
  cases h : selectionFenceForReconciliation r with
  | error e => exact ⟨e, rfl⟩
  | ok fence =>
    have hfence := selectionFence_ok_iff.mp h
    rw [hspoken, hstate] at hfence
    cases hfence

theorem spokenFence_eq_of_normal (h : c.normal = r.normal) : spokenFence c = spokenFence r := by
  have hnormal : ∀ r : StoredReservation, spokenFence r.normal = spokenFence r := fun r => by
    simp only [spokenFence, StoredReservation.normal, Option.map_map]
    rfl
  rw [← hnormal c, h, hnormal r]

/-- An authority names the fence that is computed. -/
theorem Addressed.fence_eq (h : Addressed config r input) :
    (spokenFence r).or (stateFence r.reservation) = some input.target.fence := by
  have hbinding := h.binding
  simp only [assertReconciliationBinding, bind_ok, throwIf_ok, not_not] at hbinding
  obtain ⟨_, -, fence, hfence, _, rfl, -⟩ := hbinding
  exact selectionFence_ok_iff.mp hfence

/-! ## Changes -/

/-- The states have the fields that the computation goes by, and what was never selected is in none
of the states with a fence. -/
structure Staged (n : MakerReservation) (spoken : Option Int) : Prop where
  waiting : n.state = .reserved ∨ n.state = .selected → n.settlementAttemptId = none
  filling : n.state = .filling → n.settlementAttemptId.isSome = true
  active : ¬ n.state.Terminal → spoken = none
  unselected : n.selectedQuoteDigest = none →
    spoken = none ∧ (n.state = .reserved ∨ n.state = .released ∨ n.state = .expired)

/-- The fence is computed, or there is nothing of a released reservation to compute one from. -/
def Fenced (fence : Int) (n : MakerReservation) (spoken : Option Int) : Prop :=
  spoken.or (stateFence n) = some fence ∨ n.state = .released ∧ spoken = none

theorem Staged.stateFence_eq_none (h : Staged n spoken) (hn : n.selectedQuoteDigest = none) :
    stateFence n = none := by
  unfold stateFence
  rcases (h.unselected hn).2 with hstate | hstate | hstate <;> rw [hstate]

theorem Staged.moved {command : ReservationCommand} (h : Staged n none)
    (ht : Transitioned n command m) (hheld : m.state = .quarantined → n.state ≠ .reserved) :
    Staged m none := by
  have hactive := ht.active
  cases ht.step with
  | select hstate =>
    exact ⟨fun _ => h.waiting (Or.inl hstate), by simp, fun _ => rfl, by simp⟩
  | release => exact ⟨by simp, by simp, fun _ => rfl, by simp⟩
  | beginFill hstate =>
    exact ⟨by simp, by simp, fun _ => rfl, fun hn => by simpa [hstate] using (h.unselected hn).2⟩
  | consume hstate =>
    exact ⟨by simp, by simp, fun _ => rfl, fun hn => by simpa [hstate] using (h.unselected hn).2⟩
  | expire => exact ⟨by simp, by simp, fun _ => rfl, by simp⟩
  | quarantine =>
    refine ⟨by simp, by simp, fun _ => rfl, fun hn => ?_⟩
    rcases (h.unselected hn).2 with hstate | hstate | hstate
    · exact absurd hstate (hheld rfl)
    · exact absurd (Or.inl hstate) hactive
    · exact absurd (Or.inr (Or.inr (Or.inl hstate))) hactive

theorem Fenced.moved {command : ReservationCommand} (h : Fenced fence n none) (hs : Staged n none)
    (ht : Transitioned n command m) : Fenced fence m none := by
  have hfence : stateFence n = some fence :=
    h.resolve_right fun hreleased => ht.active (Or.inl hreleased.1)
  have hactive := ht.active
  unfold stateFence at hfence
  cases ht.step with
  | select hstate | expire hstate =>
    rw [hstate] at hfence
    cases hfence
  | release => exact Or.inr ⟨rfl, rfl⟩
  | beginFill hstate | consume hstate =>
    rw [hstate] at hfence
    cases hfence
    refine Or.inl (congrArg some ?_)
    dsimp only
    omega
  | quarantine =>
    refine Or.inl (congrArg some ?_)
    dsimp only
    cases hstate : n.state with
    | selected =>
      rw [hstate] at hfence
      cases hfence
      rw [hs.waiting (Or.inr hstate), if_neg (by decide)]
      omega
    | filling =>
      rw [hstate] at hfence
      cases hfence
      rw [if_pos (hs.filling hstate)]
      omega
    | reserved =>
      rw [hstate] at hfence
      cases hfence
    | _ => exact absurd (by simp [hstate, Reservation.ReservationState.Terminal]) hactive

/-- A record whose selection was given a fence. -/
def Anchored (fence : Int) (r : StoredReservation) : Prop :=
  Staged r.reservation (spokenFence r) ∧ Fenced fence r.reservation (spokenFence r)

theorem Staged.addressed (h : Staged r.reservation (spokenFence r))
    (haddressed : Addressed config r input) (hstate : n.state.Terminal)
    (hquote : n.selectedQuoteDigest = r.reservation.selectedQuoteDigest) : Staged n spoken := by
  refine ⟨fun hn => ?_, fun hn => ?_, fun hn => absurd hstate hn, fun hn => ?_⟩
  · rcases hn with hn | hn <;> simp [hn, Reservation.ReservationState.Terminal] at hstate
  · simp [hn, Reservation.ReservationState.Terminal] at hstate
  · have hnone := hquote.symm.trans hn
    have hfence := haddressed.fence_eq
    rw [(h.unselected hnone).1, h.stateFence_eq_none hnone] at hfence
    cases hfence

theorem Fenced.eq_of_addressed (h : Fenced fence r.reservation (spokenFence r))
    (haddressed : Addressed config r input) : fence = input.target.fence := by
  have hfence := haddressed.fence_eq
  rcases h with h | ⟨hstate, hspoken⟩
  · exact Option.some.inj (h.symm.trans hfence)
  · rw [hspoken] at hfence
    simp [stateFence, hstate] at hfence

theorem Staged.change (h : Staged r.reservation (spokenFence r))
    (hchange : Change config powers r c) : Staged c.reservation (spokenFence c) := by
  cases hchange with
  | respelled hreservation hnormal =>
    rw [hreservation, spokenFence_eq_of_normal hnormal]
    exact h
  | moved ht hheld =>
    have hnone := h.active ht.active
    rw [hnone] at h
    show Staged _ (spokenFence r)
    rw [hnone]
    exact h.moved ht hheld
  | signed | bound => exact h
  | quarantined _ haddressed =>
    refine h.addressed haddressed (Or.inr (Or.inr (Or.inr (quarantinedVersion_state _ _ _)))) ?_
    unfold quarantinedReservation quarantinedVersion
    split <;> rfl
  | @reconciled input _ _ _ haddressed =>
    refine h.addressed haddressed ?_ ?_
    · cases houtcome : input.outcome <;>
        simp [reconciledReservation, houtcome, Reservation.ReservationState.Terminal]
    · unfold reconciledReservation terminalVersion
      split <;> split <;> rfl

theorem Anchored.change (h : Anchored fence r) (hchange : Change config powers r c) :
    Anchored fence c := by
  obtain ⟨hs, hf⟩ := h
  refine ⟨hs.change hchange, ?_⟩
  cases hchange with
  | respelled hreservation hnormal =>
    rw [hreservation, spokenFence_eq_of_normal hnormal]
    exact hf
  | moved ht =>
    have hnone := hs.active ht.active
    rw [hnone] at hs hf
    show Fenced _ _ (spokenFence r)
    rw [hnone]
    exact hf.moved hs ht
  | signed | bound => exact hf
  | quarantined _ haddressed =>
    have hfence := hf.eq_of_addressed haddressed
    cases ht : r.terminalReconciliation with
    | none =>
      exact Or.inl (by
        simp [spokenFence, quarantinedReservation, ht, hfence, AuthorityRequest.binding])
    | some t =>
      rcases hf with hf | ⟨-, hf⟩
      · exact Or.inl (by simpa [spokenFence, quarantinedReservation, ht] using hf)
      · simp [spokenFence, ht] at hf
  | reconciled _ haddressed =>
    rw [hf.eq_of_addressed haddressed]
    exact Or.inl rfl

/-! ## Runs -/

theorem staged_reached (config : Config) (steps : List Step) :
    (reached config steps).journal.Holds
      (Books.Each fun r => Staged r.reservation (spokenFence r)) := by
  refine each_reached (fun _ _ _ hchange h => h.change hchange) (fun r hr => ?_) steps
  obtain ⟨hcreated, hq, ht⟩ := hr
  have hspoken : spokenFence r = none := by simp [spokenFence, hq, ht]
  exact ⟨fun _ => hcreated.settlementAttemptId, fun h => by simp [hcreated.state] at h,
    fun _ => hspoken, fun _ => ⟨hspoken, Or.inl hcreated.state⟩⟩

/-- A selection that is done anchors the record, in memory and in the journal. -/
theorem selected_anchored {before : List Step} {reservationId intentDigest quoteDigest : Text}
    {now : Int} {append : Append} {j : Journal Books}
    (h : transaction (select reservationId intentDigest now) append
      (reached config before).journal = (.ok (fence, quoteDigest), j)) :
    ∃ id, requireHex32 reservationId "reservationId" = .ok id ∧
      (step config (reached config before)
          (.act (.select reservationId intentDigest) now append)).journal.Holds
        (Books.Keeps (Anchored fence) id ((reached config before).journal.memory.made.count id)) := by
  have hact : (step config (reached config before)
      (.act (.select reservationId intentDigest) now append)).journal = j := by
    show ((reached config before).act config _ now append).journal = j
    unfold Node.act ReservationOp.program
    exact congrArg Prod.snd (transaction_discard h)
  have hstaged := (staged_reached config (before ++
    [.act (.select reservationId intentDigest) now append])).memory
  rw [show reached config (before ++ [_]) = step config (reached config before) _ from run_append,
    hact] at hstaged
  rw [hact]
  obtain ⟨records, u, v, hrecords, hbody, hclone, hmemory, hwritten, -⟩ := transaction_ok h
  obtain ⟨hrevises, id, r, hid, hr, hselected, hfence⟩ :
      Revises config .none { (reached config before).journal.memory with records } u ∧ _ :=
    select_returns hbody
  have hget : j.memory.records.get? id = some r := by
    rw [hmemory]
    show v.records.get? id = some r
    rw [(withLocks_records hclone).1]
    exact hr
  have hmade : j.memory.made = (reached config before).journal.memory.made := by
    rw [hmemory]
    exact (withLocks_records hclone).2.trans hrevises.made
  have hanchored : Books.Keeps (Anchored fence) id
      ((reached config before).journal.memory.made.count id) j.memory := by
    refine ⟨by rw [hmade], fun _ c hc => ?_⟩
    cases hget.symm.trans hc
    have hs := hstaged id r hget
    have hnone := hs.active (by simp [hselected, Reservation.ReservationState.Terminal])
    refine ⟨hs, Or.inl ?_⟩
    rw [hnone]
    simp [stateFence, hselected, hfence]
  have hnext : Follows config .none j.memory j.durable := write_follows hwritten
  exact ⟨id, hid, hanchored, hanchored.follows (fun _ _ hchange hc => hc.change hchange) hnext⟩

/-- After a selection was done, and as long as no other reservation is made with its id, the fence
computed from the record is the one that `select` returned, unless the reservation was released:
then the computation may throw. And it throws for every record that was never selected. -/
theorem selection_fence_kept (config : Config) (steps : List Step) (id : Text)
    (r : StoredReservation) (hr : (reached config steps).journal.memory.records.get? id = some r) :
    (∀ before after reservationId intentDigest now append fence quoteDigest j,
      steps = before ++ .act (.select reservationId intentDigest) now append :: after →
      transaction (select reservationId intentDigest now) append (reached config before).journal =
        (.ok (fence, quoteDigest), j) →
      requireHex32 reservationId "reservationId" = .ok id →
      (reached config steps).journal.memory.made.count id =
        (reached config before).journal.memory.made.count id →
      selectionFenceForReconciliation r = .ok fence ∨ r.reservation.state = .released ∧
        ∃ e, selectionFenceForReconciliation r = .error e) ∧
    (r.reservation.selectedQuoteDigest = none →
      ∃ e, selectionFenceForReconciliation r = .error e) := by
  refine ⟨?_, fun hnone => ?_⟩
  · rintro before after reservationId intentDigest now append fence quoteDigest j rfl hselect hid
      hmade
    obtain ⟨id', hid', hbase⟩ := selected_anchored hselect
    cases hid.symm.trans hid'
    have hrun : reached config (before ++ .act (.select reservationId intentDigest) now append ::
        after) = run (step config) (step config (reached config before)
          (.act (.select reservationId intentDigest) now append)) after := run_append
    rw [hrun] at hr hmade
    obtain ⟨-, hfenced⟩ :=
      (keeps_run (fun _ _ _ hchange h => h.change hchange) after hbase).memory.2 hmade r hr
    rcases hfenced with hfenced | ⟨hstate, hspoken⟩
    · exact Or.inl (selectionFence_ok_iff.mpr hfenced)
    · exact Or.inr ⟨hstate, selectionFence_error hspoken (by simp [stateFence, hstate])⟩
  · have hstaged := (staged_reached config steps).memory id r hr
    exact selectionFence_error (hstaged.unselected hnone).1 (hstaged.stateFence_eq_none hnone)

end

open Settled in
theorem selection_fence_kept_consumed :
    ∃ r, (reached config consumed).journal.memory.records.get? (word '4') = some r ∧
      (selectionFenceForReconciliation r = .ok 2 ∨ r.reservation.state = .released ∧
        ∃ e, selectionFenceForReconciliation r = .error e) := by
  have hsome : ((reached config consumed).journal.memory.records.get? (word '4')).isSome = true := by
    decide +kernel
  obtain ⟨r, hr⟩ := Option.isSome_iff_exists.mp hsome
  obtain ⟨hselected, -⟩ := selection_fence_kept config consumed (word '4') r hr
  refine ⟨r, hr, hselected (consumed.take 2) (consumed.drop 3) (word '4') (word '3') 12 .done 2
    (word '8') (transaction (select (word '4') (word '3') 12) .done
      (reached config (consumed.take 2)).journal).2 rfl
    (Prod.ext (by decide +kernel) rfl) (by decide +kernel) (by decide +kernel)⟩

/-- The reservation is released after its selection. -/
def Settled.released : List Step :=
  selected ++ [.act (.release (word '4') "cancelled".toList) 13 .done]

open Settled in
/-- A selection under fence 2, and a release: nothing is left to compute the fence from. -/
theorem released_unfenced :
    (transaction (select (word '4') (word '3') 12) .done
        (reached config (selected.take 2)).journal).1 = .ok (2, word '8') ∧
      ((reached config released).journal.memory.records.get? (word '4')).map
          (fun r => (selectionFenceForReconciliation r).toOption) = some none ∧
      (reached config released).journal.memory.made.count (word '4') =
        (reached config (selected.take 2)).journal.memory.made.count (word '4') := by
  refine ⟨by decide +kernel, by decide +kernel, by decide +kernel⟩

end App20.Maker
