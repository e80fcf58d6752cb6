import App20.Localnet.Accounting
import App20.Lib.Run

/-!
# The ledger of commitments

What the accounting is for: a list of the distinct commitments, each under an id of its own where it
has one, and the list that the journal holds. The instance with its index of seconds simulates it over
every sequence of commitments and restarts.

* `Holds.indexCommitment`: the index of one more commitment.
* `Simulates.step`: one operation on both.
* `snapshot_of_simulates`: a snapshot is the seed and what the ledger holds of the day before.
-/

namespace App20.Localnet

open App20.Lib App20.Domain
open App20.Reservation (maxSafeInteger isObject)
open App20.Intents (dailyWindowSeconds)

/-! ## The ledger -/

structure Ledger where
  commitments : List Commitment
  journal : List Commitment
  failed : Bool

def Ledger.empty : Ledger := ⟨[], [], false⟩

/-- A write of commitments, or the process starting again. -/
inductive Operation where
  | commit (makerId amount decisionAt commitmentId : Option Json) (append : Append)
  | restart

/-- A commitment without an id is always another one. -/
def Ledger.IsNew (l : Ledger) (c : Commitment) : Prop :=
  c.commitmentId = none ∨ ∀ prior ∈ l.commitments, prior.commitmentId ≠ c.commitmentId

instance (l : Ledger) (c : Commitment) : Decidable (l.IsNew c) :=
  inferInstanceAs (Decidable (_ ∨ _))

def Ledger.add (durable : Bool) (l : Ledger) (c : Commitment) (append : Append) : Ledger :=
  if durable = false then { l with commitments := l.commitments ++ [c] }
  else
    match append with
    | .done => { l with commitments := l.commitments ++ [c], journal := l.commitments ++ [c] }
    | .lost => { l with failed := true }
    | .kept => { l with journal := l.commitments ++ [c], failed := true }

def Ledger.commit (durable : Bool) (l : Ledger)
    (makerId amount decisionAt commitmentId : Option Json) (append : Append) : Ledger :=
  if l.failed = true then l
  else
    match Economics.readCommitment durable makerId amount decisionAt commitmentId with
    | .error _ => l
    | .ok c => if l.IsNew c then l.add durable c append else l

def Ledger.restart (durable : Bool) (l : Ledger) : Ledger :=
  if durable = false then l else ⟨l.journal, l.journal, false⟩

def Ledger.step (durable : Bool) (l : Ledger) : Operation → Ledger
  | .commit makerId amount decisionAt commitmentId append =>
    l.commit durable makerId amount decisionAt commitmentId append
  | .restart => l.restart durable

/-- What the trailing day before a time holds, of a value that is read off each commitment. -/
def heldAt (commitments : List Commitment) (value : Commitment → Int) (t : Int) : Int :=
  ((commitments.filter fun c => t - dailyWindowSeconds < c.committedAt ∧ c.committedAt ≤ t).map
    value).sum

def Commitment.of (makerId : Text) (c : Commitment) : Int :=
  if makerId = c.makerId then c.usdcEquivalentBaseUnits else 0

/-! ## The index of a list -/

def at_ (commitments : List Commitment) (time : Int) : List Commitment :=
  commitments.filter fun c => c.committedAt = time

structure Holds (index : Index) (commitments : List Commitment) : Prop where
  sorted : index.times.Pairwise (· < ·)
  times : ∀ t, t ∈ index.times ↔ (index.buckets t).isSome = true
  none : ∀ t, index.buckets t = none → ∀ c ∈ commitments, c.committedAt ≠ t
  market : ∀ t, ∀ b ∈ index.buckets t,
    b.market = ((at_ commitments t).map (·.usdcEquivalentBaseUnits)).sum
  maker : ∀ t, ∀ b ∈ index.buckets t, ∀ makerId,
    b.byMaker makerId = ((at_ commitments t).map (·.of makerId)).sum

variable {index : Index} {commitments : List Commitment}

theorem holds_empty : Holds Index.empty [] where
  sorted := List.Pairwise.nil
  times _ := ⟨fun h => absurd h List.not_mem_nil, fun h => by cases h⟩
  none _ _ _ hc := absurd hc List.not_mem_nil
  market _ _ hb := by cases hb
  maker _ _ hb := by cases hb

theorem Holds.perm {other : List Commitment} (h : Holds index commitments)
    (hperm : commitments.Perm other) : Holds index other where
  sorted := h.sorted
  times := h.times
  none t ht c hc := h.none t ht c (hperm.mem_iff.mpr hc)
  market t b hb := by
    rw [h.market t b hb]
    exact ((hperm.filter _).map _).sum_eq
  maker t b hb makerId := by
    rw [h.maker t b hb makerId]
    exact ((hperm.filter _).map _).sum_eq

theorem at_append_self (commitments : List Commitment) (c : Commitment) :
    at_ (commitments ++ [c]) c.committedAt = at_ commitments c.committedAt ++ [c] := by
  simp [at_, List.filter_append]

variable {c : Commitment}

theorem at_append_of_ne {t : Int} (h : c.committedAt ≠ t) :
    at_ (commitments ++ [c]) t = at_ commitments t := by
  simp [at_, List.filter_append, h]

theorem bucket_add {b : Bucket} {cs : List Commitment}
    (hmarket : b.market = (cs.map (·.usdcEquivalentBaseUnits)).sum)
    (hmaker : ∀ makerId, b.byMaker makerId = (cs.map (·.of makerId)).sum) :
    (b.add c).market = ((cs ++ [c]).map (·.usdcEquivalentBaseUnits)).sum ∧
      ∀ makerId, (b.add c).byMaker makerId = ((cs ++ [c]).map (·.of makerId)).sum := by
  refine ⟨?_, fun makerId => ?_⟩
  · rw [List.map_append, List.sum_append, ← hmarket]
    simp [Bucket.add]
  · rw [List.map_append, List.sum_append, ← hmaker]
    simp only [Bucket.add, List.map_cons, List.map_nil, List.sum_cons, List.sum_nil, add_zero,
      Commitment.of]
    split <;> omega

theorem Holds.indexCommitment (h : Holds index commitments) (c : Commitment) :
    Holds (index.indexCommitment c) (commitments ++ [c]) := by
  -- the bucket of the second, whether it is there or new
  have hbucket : ∃ b : Bucket, (index.indexCommitment c).buckets =
        Function.update index.buckets c.committedAt (some (b.add c)) ∧
      b.market = ((at_ commitments c.committedAt).map (·.usdcEquivalentBaseUnits)).sum ∧
      ∀ makerId, b.byMaker makerId = ((at_ commitments c.committedAt).map (·.of makerId)).sum := by
    unfold Index.indexCommitment
    cases hb : index.buckets c.committedAt with
    | some b => exact ⟨b, rfl, h.market _ b hb, h.maker _ b hb⟩
    | none =>
      have hnil : at_ commitments c.committedAt = [] := by
        unfold at_
        rw [List.filter_eq_nil_iff]
        exact fun d hd => by simpa using h.none _ hb d hd
      refine ⟨.empty, rfl, ?_, fun makerId => ?_⟩
      · rw [hnil]
        rfl
      · rw [hnil]
        rfl
  obtain ⟨b, hbuckets, hmarket, hmaker⟩ := hbucket
  obtain ⟨hmarket', hmaker'⟩ := bucket_add (c := c) hmarket hmaker
  have hother {t : Int} (ht : t ≠ c.committedAt) :
      (index.indexCommitment c).buckets t = index.buckets t := by
    rw [hbuckets, Function.update_of_ne ht]
  have hself : (index.indexCommitment c).buckets c.committedAt = some (b.add c) := by
    rw [hbuckets, Function.update_self]
  refine ⟨?_, fun t => ?_, fun t ht d hd => ?_, fun t b' hb' => ?_, fun t b' hb' makerId => ?_⟩
  · unfold Index.indexCommitment
    cases hb : index.buckets c.committedAt with
    | some b => exact h.sorted
    | none =>
      refine pairwise_insertKey h.sorted fun hmem => ?_
      rw [h.times, hb] at hmem
      cases hmem
  · by_cases ht : t = c.committedAt
    · rw [ht, hself]
      refine iff_of_true ?_ rfl
      unfold Index.indexCommitment
      cases hb : index.buckets c.committedAt with
      | some b =>
        refine (h.times _).mpr ?_
        rw [hb]
        rfl
      | none => exact (mem_insertKey (h.sorted.imp le_of_lt)).mpr (.inl rfl)
    · rw [hother ht, ← h.times]
      unfold Index.indexCommitment
      cases hb : index.buckets c.committedAt with
      | some b => rfl
      | none =>
        rw [mem_insertKey (h.sorted.imp le_of_lt)]
        exact or_iff_right ht
  · have hne : t ≠ c.committedAt := by
      rintro rfl
      rw [hself] at ht
      cases ht
    rcases List.mem_append.mp hd with hd | hd
    · exact h.none t ((hother hne).symm.trans ht) d hd
    · rw [List.mem_singleton.mp hd]
      exact hne.symm
  · by_cases ht : t = c.committedAt
    · rw [ht] at hb' ⊢
      rw [hself] at hb'
      cases hb'
      rw [at_append_self]
      exact hmarket'
    · rw [hother ht] at hb'
      rw [at_append_of_ne (Ne.symm ht)]
      exact h.market t b' hb'
  · by_cases ht : t = c.committedAt
    · rw [ht] at hb' ⊢
      rw [hself] at hb'
      cases hb'
      rw [at_append_self]
      exact hmaker' makerId
    · rw [hother ht] at hb'
      rw [at_append_of_ne (Ne.symm ht)]
      exact h.maker t b' hb' makerId

theorem Holds.committed (h : Holds index commitments) {read : Bucket → Int}
    {value : Commitment → Int}
    (hread : ∀ t, ∀ b ∈ index.buckets t, read b = ((at_ commitments t).map value).sum) (t : Int) :
    index.committed (t + 1 - dailyWindowSeconds) (t + 1) read = heldAt commitments value t := by
  have hnodup : index.times.Nodup := h.sorted.imp ne_of_lt
  have hbounds : t + 1 - dailyWindowSeconds ≤ t + 1 := by
    unfold dailyWindowSeconds
    omega
  have hmem {c : Commitment} (hc : c ∈ commitments) : c.committedAt ∈ index.times := by
    rw [h.times, Option.isSome_iff_ne_none]
    exact fun hnone => h.none _ hnone c hc rfl
  unfold Index.committed heldAt
  rw [between_eq (h.sorted.imp le_of_lt) hbounds]
  have hsums : ∀ time ∈ index.times.filter (fun k =>
        decide (t + 1 - dailyWindowSeconds ≤ k) && decide (k < t + 1)),
      ((index.buckets time).map read).getD 0 =
        ((commitments.filter fun c => c.committedAt = time).map value).sum := by
    intro time htime
    obtain ⟨b, hb⟩ := Option.isSome_iff_exists.mp ((h.times _).mp (List.mem_filter.mp htime).1)
    rw [hb]
    exact hread time b hb
  rw [List.map_congr_left hsums, sum_by_key (hnodup.filter _)]
  congr 2
  apply List.filter_congr
  intro c hc
  simp only [List.mem_filter, hmem hc, true_and, Bool.and_eq_true, decide_eq_true_eq]
  apply decide_eq_decide.mpr
  omega

/-! ## What is written and loaded -/

/-- The journal reads the commitment back as it was. -/
def Commitment.Sound (c : Commitment) : Prop := journalCommitment c.json = .ok c

theorem journalText_ok {value : Option Json} {label : String} {s : Text}
    (h : journalText value label = .ok s) :
    value = some (.string s) ∧ ∀ label, journalText (some (.string s)) label = .ok s := by
  unfold journalText at h ⊢
  split at h
  · rename_i t
    split at h
    · cases h
    · rename_i hs
      cases h
      exact ⟨rfl, fun _ => if_neg hs⟩
  · cases h

theorem isPositiveDecimal_decimal {n : Int} (h : 0 < n) : isPositiveDecimal (decimal n) = true := by
  unfold isPositiveDecimal
  rw [isDecimal_decimal (by omega), Bool.true_and, decide_eq_true_eq]
  intro hzero
  have hvalue := decimalValue_decimal (n := n) (by omega)
  rw [hzero] at hvalue
  have hz : decimalValue ['0'] = 0 := rfl
  omega

/-- What `commit` reads can be read back, and has an id where there is a journal. -/
theorem readCommitment_ok {durable : Bool} {makerId amount decisionAt commitmentId : Option Json}
    (h : Economics.readCommitment durable makerId amount decisionAt commitmentId = .ok c) :
    (c.commitmentId.isSome = true → c.Sound) ∧ (durable = true → c.commitmentId.isSome = true) ∧
      makerId = some (.string c.makerId) ∧ amount = some (.bigint c.usdcEquivalentBaseUnits) ∧
      0 < c.usdcEquivalentBaseUnits ∧ decisionAt = some (.number c.committedAt) := by
  unfold Economics.readCommitment at h
  rw [bind_ok] at h
  obtain ⟨maker, hmaker, h⟩ := h
  obtain ⟨hmakerText, hmaker⟩ := journalText_ok hmaker
  split at h
  swap
  · cases h
  rename_i amount
  rw [bind_ok] at h
  obtain ⟨_, hpos, h⟩ := h
  have hpos := Int.not_le.mp (throwIf_ok.mp hpos)
  split at h
  swap
  · cases h
  rename_i time
  rw [bind_ok] at h
  obtain ⟨_, htime, h⟩ := h
  have htime := throwIf_ok.mp htime
  split at h
  · rw [bind_ok] at h
    obtain ⟨_, hdurable, h⟩ := h
    have hdurable := throwIf_ok.mp hdurable
    cases h
    exact ⟨fun hid => (by cases hid), fun hd => absurd hd hdurable, hmakerText, rfl, hpos, rfl⟩
  · rw [bind_ok] at h
    obtain ⟨id, hid, h⟩ := h
    obtain ⟨-, hid⟩ := journalText_ok hid
    cases h
    refine ⟨fun _ => ?_, fun _ => rfl, hmakerText, rfl, hpos, rfl⟩
    have hdecimal := isPositiveDecimal_decimal (n := amount) (by omega)
    have hvalue := decimalValue_decimal (n := amount) (by omega)
    simp [Commitment.Sound, journalCommitment, Commitment.json, isObject, Json.get?,
      List.lookup_cons, throwIf, hdecimal, hvalue, hid, hmaker, htime, bind, Except.bind, pure,
      Except.pure]

def journalOf (stored : List Commitment) : Json :=
  .object [("domain", .string accountingJournalDomain),
    ("commitments", .array (stored.map Commitment.json))]

theorem loadCommitments_sound {stored : List Commitment} : ∀ (byId : Table Commitment.commitmentId)
    {index : Index} {before : List Commitment}, Holds index before → byId.entries = before →
    (∀ c ∈ stored, c.Sound) → ((before ++ stored).map (·.commitmentId)).Nodup →
    ∃ loaded, loadCommitments (byId, index) (stored.map Commitment.json) = .ok loaded ∧
      loaded.1.entries = before ++ stored ∧ Holds loaded.2 (before ++ stored) := by
  induction stored with
  | nil =>
    intro byId index before hholds hentries _ _
    rw [List.append_nil]
    exact ⟨(byId, index), rfl, hentries, hholds⟩
  | cons c stored ih =>
    intro byId index before hholds hentries hsound hnodup
    obtain ⟨hc, hstored⟩ := List.forall_mem_cons.mp hsound
    have hnew : byId.get? c.commitmentId = none := by
      rw [Option.eq_none_iff_forall_ne_some]
      intro prior hprior
      obtain ⟨hmem, hkey⟩ := Table.get?_eq_some.mp hprior
      rw [hentries] at hmem
      rw [List.map_append, List.nodup_append] at hnodup
      exact hnodup.2.2 _ (List.mem_map_of_mem hmem) _ List.mem_cons_self hkey
    have happend : before ++ c :: stored = (before ++ [c]) ++ stored := by simp
    rw [happend] at hnodup ⊢
    obtain ⟨loaded, hloaded, hrest⟩ := ih (byId.put c)
      (hholds.indexCommitment c) (by rw [Table.entries_put_of_new hnew, hentries]) hstored hnodup
    refine ⟨loaded, ?_, hrest⟩
    rw [List.map_cons, loadCommitments, hc, ok_bind, hnew,
      throwIf_neg (by decide), ok_bind, hloaded]

theorem loadJournal_journalOf {stored : List Commitment} (hsound : ∀ c ∈ stored, c.Sound)
    (hnodup : (stored.map (·.commitmentId)).Nodup) :
    ∃ loaded, loadJournal (some (journalOf stored)) = .ok loaded ∧
      loaded.1.entries = stored ∧ Holds loaded.2 stored := by
  obtain ⟨loaded, hloaded, hrest⟩ := loadCommitments_sound Table.empty holds_empty rfl hsound hnodup
  refine ⟨loaded, ?_, hrest⟩
  have hget : (journalOf stored).get? "domain" = some (.string accountingJournalDomain) ∧
      (journalOf stored).get? "commitments" = some (.array (stored.map Commitment.json)) :=
    ⟨rfl, rfl⟩
  unfold loadJournal
  dsimp only
  rw [hget.1, hget.2]
  dsimp only
  rw [throwIf_neg (not_not_intro rfl), ok_bind, hloaded]

/-! ## The simulation -/

def identified (commitments : List Commitment) : List Commitment :=
  commitments.filter fun c => c.commitmentId.isSome

/-- The instance has what the ledger has, in memory and in the journal. -/
structure Simulates (e : Economics) (l : Ledger) : Prop where
  failed : e.failed = l.failed
  holds : Holds e.index l.commitments
  byId : e.commitmentsById.entries.Perm (identified l.commitments)
  sound : ∀ c ∈ identified l.commitments, c.Sound
  allIdentified : e.options.durable = true → ∀ c ∈ l.commitments, c.commitmentId.isSome = true
  journalSound : ∀ c ∈ l.journal, c.Sound ∧ c.commitmentId.isSome = true
  journalNodup : (l.journal.map (·.commitmentId)).Nodup
  journal : e.options.durable = true → (e.journal = none ∧ l.journal = []) ∨
      ∃ stored : List Commitment, stored.Perm l.journal ∧ e.journal = some (journalOf stored)

variable {localeCompare : Text → Text → Ordering}

def Economics.step (localeCompare : Text → Text → Ordering) (e : Economics) :
    Operation → Economics
  | .commit makerId amount decisionAt commitmentId append =>
    (e.commit localeCompare makerId amount decisionAt commitmentId append).2
  | .restart => e.restart

namespace Simulates

variable {e : Economics} {l : Ledger}

theorem create (options : EconomicsOptions) :
    ∃ e, createLocalnetRfqEconomics options none = .ok e ∧ e.options = options ∧
      Simulates e Ledger.empty := by
  refine ⟨⟨options, options.suspended, Index.empty, Table.empty, false, none⟩, ?_, rfl, rfl,
    holds_empty, .refl _, ?_, ?_, ?_, List.nodup_nil, fun _ => .inl ⟨rfl, rfl⟩⟩
  · unfold createLocalnetRfqEconomics
    split <;> rfl
  · exact fun c hc => absurd hc List.not_mem_nil
  · exact fun _ c hc => absurd hc List.not_mem_nil
  · exact fun c hc => absurd hc List.not_mem_nil

theorem get?_isSome_iff (h : Simulates e l) (hid : c.commitmentId ≠ none) :
    (e.commitmentsById.get? c.commitmentId).isSome = true ↔ ¬ l.IsNew c := by
  unfold Ledger.IsNew
  constructor
  · intro hsome
    obtain ⟨prior, hprior⟩ := Option.isSome_iff_exists.mp hsome
    obtain ⟨hmem, hkey⟩ := Table.get?_eq_some.mp hprior
    rintro (hnone | hnew)
    · exact hid hnone
    · exact hnew prior (List.mem_filter.mp (h.byId.mem_iff.mp hmem)).1 hkey
  · intro hold
    rw [not_or] at hold
    obtain ⟨-, hold⟩ := hold
    simp only [not_forall, not_not] at hold
    obtain ⟨prior, hmem, hkey⟩ := hold
    have hentry : prior ∈ e.commitmentsById.entries := by
      refine h.byId.mem_iff.mpr (List.mem_filter.mpr ⟨hmem, ?_⟩)
      rw [hkey]
      exact Option.isSome_iff_ne_none.mpr hid
    rw [← hkey, Table.get?_mem hentry]
    rfl

theorem identified_append (hid : c.commitmentId.isSome = true) :
    identified (l.commitments ++ [c]) = identified l.commitments ++ [c] := by
  simp [identified, List.filter_append, hid]

theorem put_perm (h : Simulates e l) (hid : c.commitmentId.isSome = true)
    (hnew : e.commitmentsById.get? c.commitmentId = none) :
    (e.commitmentsById.put c).entries.Perm (identified (l.commitments ++ [c])) := by
  rw [Table.entries_put_of_new hnew, identified_append hid]
  exact h.byId.append_right [c]

theorem sound_append (h : Simulates e l) (hc : c.Sound) (hid : c.commitmentId.isSome = true) :
    ∀ d ∈ identified (l.commitments ++ [c]), d.Sound := by
  intro d hd
  rw [identified_append hid, List.mem_append, List.mem_singleton] at hd
  rcases hd with hd | rfl
  · exact h.sound d hd
  · exact hc

theorem record (h : Simulates e l) (hc : c.Sound) (hid : c.commitmentId.isSome = true)
    (hnew : e.commitmentsById.get? c.commitmentId = none) (append : Append) :
    Simulates (e.record localeCompare c append).2 (l.add e.options.durable c append) := by
  have hperm := h.put_perm hid hnew
  have hsound := h.sound_append hc hid
  unfold Economics.record Ledger.add
  by_cases hdurable : e.options.durable = false
  · simp only [hdurable, if_true]
    exact ⟨h.failed, h.holds.indexCommitment c, hperm, hsound,
      fun hd => absurd hd (Bool.eq_false_iff.mp hdurable), h.journalSound, h.journalNodup,
      fun hd => absurd hd (Bool.eq_false_iff.mp hdurable)⟩
  · have hall : ∀ d ∈ l.commitments ++ [c], d.commitmentId.isSome = true := by
      intro d hd
      rw [List.mem_append, List.mem_singleton] at hd
      rcases hd with hd | rfl
      · exact h.allIdentified (Bool.not_eq_false _ ▸ hdurable) d hd
      · exact hid
    have hidentified : identified (l.commitments ++ [c]) = l.commitments ++ [c] :=
      List.filter_eq_self.mpr hall
    have hjournal : ∀ d ∈ l.commitments ++ [c], d.Sound ∧ d.commitmentId.isSome = true :=
      fun d hd => ⟨hsound d (hidentified.symm ▸ hd), hall d hd⟩
    have hnodup : ((l.commitments ++ [c]).map (·.commitmentId)).Nodup := by
      rw [hidentified] at hperm
      exact (hperm.map _).nodup_iff.mp (e.commitmentsById.put c).nodup
    have hstored : ∃ stored : List Commitment, stored.Perm (l.commitments ++ [c]) ∧
        some (serializeCommitments localeCompare (e.commitmentsById.put c).entries) =
          some (journalOf stored) :=
      ⟨sort (commitmentOrder localeCompare) (e.commitmentsById.put c).entries,
        (perm_sort _ _).trans (hidentified ▸ hperm), rfl⟩
    simp only [if_neg hdurable]
    cases append with
    | done =>
      exact ⟨h.failed, h.holds.indexCommitment c, hperm, hsound, fun _ => hall, hjournal, hnodup,
        fun _ => .inr hstored⟩
    | lost =>
      exact ⟨rfl, h.holds, h.byId, h.sound, h.allIdentified, h.journalSound, h.journalNodup,
        h.journal⟩
    | kept =>
      exact ⟨rfl, h.holds, h.byId, h.sound, h.allIdentified, hjournal, hnodup,
        fun _ => .inr hstored⟩

theorem record_options (e : Economics) (c : Commitment) (append : Append) :
    (e.record localeCompare c append).2.options = e.options := by
  unfold Economics.record
  dsimp only
  split
  · rfl
  · cases append <;> rfl

/-- A commitment without an id. Only an instance without a journal reads one. -/
theorem unidentified (h : Simulates e l) (hid : c.commitmentId = none)
    (hdurable : e.options.durable = false) :
    Simulates { e with index := e.index.indexCommitment c }
      { l with commitments := l.commitments ++ [c] } := by
  have hidentified : identified (l.commitments ++ [c]) = identified l.commitments := by
    simp [identified, List.filter_append, hid]
  refine ⟨h.failed, h.holds.indexCommitment c, ?_, ?_,
    fun hd => absurd hd (Bool.eq_false_iff.mp hdurable), h.journalSound, h.journalNodup,
    fun hd => absurd hd (Bool.eq_false_iff.mp hdurable)⟩
  · rw [hidentified]
    exact h.byId
  · rw [hidentified]
    exact h.sound

theorem commit (h : Simulates e l) (makerId amount decisionAt commitmentId : Option Json)
    (append : Append) :
    Simulates (e.commit localeCompare makerId amount decisionAt commitmentId append).2
      (l.commit e.options.durable makerId amount decisionAt commitmentId append) := by
  unfold Economics.commit Ledger.commit
  rw [h.failed]
  split
  · exact h
  · cases hread : Economics.readCommitment e.options.durable makerId amount decisionAt
      commitmentId with
    | error reason => exact h
    | ok c =>
      obtain ⟨hsound, hdurable, -⟩ := readCommitment_ok hread
      dsimp only
      unfold Economics.commitRead
      cases hid : c.commitmentId with
      | none =>
        have hfalse : e.options.durable = false := by
          by_contra htrue
          rw [hid] at hdurable
          cases hdurable (Bool.not_eq_false _ ▸ htrue)
        rw [if_pos (.inl hid)]
        unfold Ledger.add
        rw [if_pos hfalse]
        exact h.unidentified hid hfalse
      | some id =>
        have hsome : c.commitmentId.isSome = true := by
          rw [hid]
          rfl
        have hne : c.commitmentId ≠ none := Option.isSome_iff_ne_none.mp hsome
        have hfound := h.get?_isSome_iff hne
        dsimp only
        rw [← hid]
        cases hprior : e.commitmentsById.get? c.commitmentId with
        | some prior =>
          rw [hprior] at hfound
          rw [if_neg (hfound.mp rfl)]
          dsimp only
          split <;> exact h
        | none =>
          rw [hprior] at hfound
          have hnew : l.IsNew c := by
            by_contra hold
            cases hfound.mpr hold
          rw [if_pos hnew]
          exact h.record (hsound hsome) hsome hprior append

theorem restart (h : Simulates e l) : Simulates e.restart (l.restart e.options.durable) := by
  unfold Economics.restart Ledger.restart
  by_cases hdurable : e.options.durable = false
  · rw [if_pos hdurable, if_pos hdurable]
    exact h
  · have htrue : e.options.durable = true := Bool.not_eq_false _ ▸ hdurable
    rw [if_neg hdurable, if_neg hdurable]
    unfold createLocalnetRfqEconomics
    rw [if_pos htrue]
    have hidentified : identified l.journal = l.journal :=
      List.filter_eq_self.mpr fun c hc => (h.journalSound c hc).2
    rcases h.journal htrue with ⟨hnone, hnil⟩ | ⟨stored, hperm, hstored⟩
    · rw [hnone, hnil]
      refine ⟨rfl, holds_empty, .refl _, ?_, ?_, ?_, List.nodup_nil, fun _ => .inl ⟨rfl, rfl⟩⟩
      · exact fun c hc => absurd hc List.not_mem_nil
      · exact fun _ c hc => absurd hc List.not_mem_nil
      · exact fun c hc => absurd hc List.not_mem_nil
    · obtain ⟨loaded, hloaded, hentries, hholds⟩ := loadJournal_journalOf
        (fun c hc => (h.journalSound c (hperm.mem_iff.mp hc)).1)
        ((hperm.map _).nodup_iff.mpr h.journalNodup)
      rw [hstored, hloaded]
      refine ⟨rfl, hholds.perm hperm, ?_, ?_, ?_, h.journalSound, h.journalNodup,
        fun _ => .inr ⟨stored, hperm, rfl⟩⟩
      · rw [hidentified]
        exact (List.Perm.of_eq hentries).trans hperm
      · rw [hidentified]
        exact fun c hc => (h.journalSound c hc).1
      · exact fun _ c hc => (h.journalSound c hc).2

theorem step (h : Simulates e l) (op : Operation) :
    Simulates (e.step localeCompare op) (l.step e.options.durable op) := by
  cases op with
  | commit makerId amount decisionAt commitmentId append =>
    exact h.commit makerId amount decisionAt commitmentId append
  | restart => exact h.restart

end Simulates

theorem commitRead_options (e : Economics) (c : Commitment) (append : Append) :
    (e.commitRead localeCompare c append).2.options = e.options := by
  unfold Economics.commitRead
  split
  · rfl
  · split
    · split <;> rfl
    · exact Simulates.record_options e c append

theorem step_options (e : Economics) (op : Operation) :
    (e.step localeCompare op).options = e.options := by
  cases op with
  | commit makerId amount decisionAt commitmentId append =>
    change (e.commit _ _ _ _ _ _).2.options = _
    unfold Economics.commit
    split
    · rfl
    · split
      · rfl
      · exact commitRead_options e _ append
  | restart =>
    change e.restart.options = _
    unfold Economics.restart
    split
    · rfl
    · split
      · rename_i next hnext
        simp only [createLocalnetRfqEconomics, bind_ok, pure_ok] at hnext
        obtain ⟨_, -, rfl⟩ := hnext
        rfl
      · rfl

theorem simulates_run {e : Economics} {l : Ledger} (h : Simulates e l) (ops : List Operation) :
    Simulates (run (Economics.step localeCompare) e ops) (run (Ledger.step e.options.durable) l ops) ∧
      (run (Economics.step localeCompare) e ops).options = e.options := by
  induction ops generalizing e l with
  | nil => exact ⟨h, rfl⟩
  | cons op ops ih =>
    have hoptions : (e.step localeCompare op).options = e.options := step_options e op
    rw [run_cons, run_cons, ← hoptions]
    exact ih (hoptions.symm ▸ h.step op)

theorem snapshot_of_simulates {e : Economics} {l : Ledger} (h : Simulates e l)
    (hopen : e.failed = false) (t : Int) (makerId marketId : Text) :
    e.snapshotAccounting t (some (.string makerId)) marketId = .ok {
      window := trailingWindow t, marketId, makerId := some (.string makerId), observedAt := t
      makerCommittedUsdcBaseUnits := e.options.makerSeed + heldAt l.commitments (·.of makerId) t
      marketCommittedUsdcBaseUnits :=
        e.options.marketSeed + heldAt l.commitments (·.usdcEquivalentBaseUnits) t } := by
  have hmaker : e.index.committed (trailingWindow t).startsAt (trailingWindow t).endsAt
      (Bucket.maker (some (.string makerId))) = heldAt l.commitments (·.of makerId) t :=
    h.holds.committed (fun t b hb => h.holds.maker t b hb makerId) t
  have hmarket : e.index.committed (trailingWindow t).startsAt (trailingWindow t).endsAt
      Bucket.market = heldAt l.commitments (·.usdcEquivalentBaseUnits) t :=
    h.holds.committed h.holds.market t
  unfold Economics.snapshotAccounting
  rw [throwIf_neg (by rw [hopen]; decide), ok_bind]
  dsimp only
  rw [hmaker, hmarket]
  rfl

end App20.Localnet
