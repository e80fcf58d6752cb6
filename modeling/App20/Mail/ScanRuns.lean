import App20.Lib.Run
import App20.Mail.Scan

/-!
# Runs of the mail scan

Scans of a mailbox over any number of sessions, while the chain grows. Each scan loads the cursor,
reads the pages of the planned range, and stores the cursor again. A new session has not loaded the
recent window yet, and plans it wherever the cursor ends.

* `scan_covers`: every block between the ends of the cursor was read, when no recent window is
  planned beyond the blocks that were scanned.
* `recent_window_gap`: a session that starts far behind the head leaves blocks out for ever.
-/

namespace App20.Mail

open App20.Lib App20.Domain
open App20.Reservation (maxSafeInteger)

/-! ## Scans -/

/-- The pages of a range, with the tokens that the provider answers. What is returned goes on with
the range, when there is more than the pages of one scan. -/
def readPages : Nat → Option Text → List Text → List (Option Json) → Except String (Option Text)
  | 0, token, _, _ => .ok token
  | _ + 1, _, _, [] => .error "The provider did not answer."
  | pages + 1, _, seenTokens, reply :: replies => do
    match ← normalizeContinuationToken reply with
    | none => return none
    | some nextToken =>
      throwIf (nextToken ∈ seenTokens) "The RPC repeated an event continuation token."
      readPages pages (some nextToken) (nextToken :: seenTokens) replies

/-- A mailbox: its stored cursor, the recent window in this session, the head of the chain, and the
ranges of all scans that were completed. -/
structure Sys where
  stored : Option Json
  recentLoaded : Bool
  head : Int
  read : List (Int × Int)

def Sys.cursor (s : Sys) : MailScanCursor := loadMailScanCursor s.stored

/-- A scan whose range was read to its end, or to the token that goes on with it. -/
def finishScan (s : Sys) (range : MailScanRange) (continuationToken : Option Text) :
    Except String Sys :=
  match continuationToken with
  | some token => do
    let cursor ← pauseMailScan s.cursor range token
    return { s with stored := some cursor.save }
  | none =>
    .ok { s with stored := some (completeMailScan s.cursor range).save
                 recentLoaded := s.recentLoaded || range.toBlock = s.head
                 read := s.read ++ [(range.fromBlock, range.toBlock)] }

def scan (s : Sys) (requested : RequestedScan) (replies : List (Option Json)) :
    Except String Sys := do
  match ← planMailScan s.cursor s.head requested s.recentLoaded with
  | none => return s
  | some range =>
    let continuationToken ← readPages mailScanMaxPages range.continuationToken
      range.continuationToken.toList replies
    finishScan s range continuationToken

inductive Action where
  /-- The chain grows. -/
  | grow (head : Int)
  /-- A new session. -/
  | session
  | scan (requested : RequestedScan) (replies : List (Option Json))

/-- A scan that fails stores nothing. -/
def step (s : Sys) : Action → Sys
  | .grow head => if s.head ≤ head then { s with head } else s
  | .session => { s with recentLoaded := false }
  | .scan requested replies =>
    match scan s requested replies with
    | .ok s' => s'
    | .error _ => s

/-- A mailbox that was never scanned. -/
def fresh (head : Int) : Sys := ⟨none, false, head, []⟩

/-! ## Coverage -/

/-- The block lies in the range of a completed scan. -/
def Sys.Read (s : Sys) (block : Int) : Prop := ∃ r ∈ s.read, r.1 ≤ block ∧ block ≤ r.2

instance (s : Sys) (block : Int) : Decidable (s.Read block) :=
  inferInstanceAs (Decidable (∃ r ∈ s.read, _))

/-- The range begins where the scanned blocks end, or before, and ends where they begin, or after. -/
def Adjoins (c : MailScanCursor) (fromBlock toBlock : Int) : Prop :=
  ∀ o ∈ c.oldestScannedBlock, ∀ n ∈ c.newestScannedBlock, fromBlock ≤ n + 1 ∧ o ≤ toBlock + 1

/-- The blocks of a cursor were read, and what is left unfinished adjoins them. -/
structure Covered (s : Sys) : Prop where
  wellFormed : s.cursor.WellFormed
  both : s.cursor.oldestScannedBlock = none ↔ s.cursor.newestScannedBlock = none
  head : ∀ n ∈ s.cursor.newestScannedBlock, n ≤ s.head
  pending : ∀ p ∈ s.cursor.pending, p.toBlock ≤ s.head ∧ Adjoins s.cursor p.fromBlock p.toBlock
  loaded : s.recentLoaded = true → s.cursor.newestScannedBlock ≠ none
  read : ∀ o ∈ s.cursor.oldestScannedBlock, ∀ n ∈ s.cursor.newestScannedBlock, ∀ b, o ≤ b → b ≤ n →
    s.Read b

theorem covered_fresh (head : Int) : Covered (fresh head) where
  wellFormed := ⟨fun _ h => (Option.not_mem_none _ h).elim, fun _ h => (Option.not_mem_none _ h).elim,
    fun _ h => (Option.not_mem_none _ h).elim, fun _ h => (Option.not_mem_none _ h).elim⟩
  both := Iff.rfl
  head _ h := (Option.not_mem_none _ h).elim
  pending _ h := (Option.not_mem_none _ h).elim
  loaded h := Bool.noConfusion h
  read _ h := (Option.not_mem_none _ h).elim

/-- A newer scan of a session that did not load the recent window yet reaches back to the scanned
blocks: the head is at most one window beyond them. -/
def Reaches (s : Sys) : Action → Prop
  | .scan .newer _ => s.cursor.pending = none → s.recentLoaded = false →
    ∀ n ∈ s.cursor.newestScannedBlock, s.head ≤ n + mailScanBlockWindow
  | _ => True

instance (s : Sys) (a : Action) : Decidable (Reaches s a) := by
  unfold Reaches
  split <;> infer_instance

variable {s : Sys} {range : MailScanRange}

theorem Covered.planned (h : Covered s) {requested : RequestedScan} {replies : List (Option Json)}
    (hreaches : Reaches s (.scan requested replies)) (hhead : IsBlockNumber s.head)
    (hplan : Planned s.cursor s.head requested s.recentLoaded range) :
    0 ≤ range.fromBlock ∧ range.fromBlock ≤ range.toBlock ∧ range.toBlock ≤ s.head ∧
      Adjoins s.cursor range.fromBlock range.toBlock := by
  obtain ⟨hpositive, -⟩ := hhead
  cases hplan with
  | @resumed p hp =>
    obtain ⟨hfrom, -, hordered, -⟩ := h.wellFormed.pending p hp
    obtain ⟨hto, hadjoins⟩ := h.pending p hp
    exact ⟨hfrom.1, hordered, hto, hadjoins⟩
  | @older toBlock hp hrequested hto hle =>
    have hfrom : max 0 (toBlock - mailScanBlockWindow + 1) ≤ toBlock := by
      unfold mailScanBlockWindow
      omega
    refine ⟨Int.le_max_left _ _, hfrom, ?_, fun o ho n hn => ?_⟩
    · cases ho : s.cursor.oldestScannedBlock with
      | none =>
        rw [ho, Option.getD_none] at hto
        dsimp only
        omega
      | some o =>
        rw [ho, Option.getD_some] at hto
        obtain ⟨n, hn⟩ := Option.ne_none_iff_exists'.mp fun hnone =>
          absurd (ho.symm.trans (h.both.mpr hnone)) (Option.some_ne_none o)
        have hon := h.wellFormed.ordered o ho n hn
        have hnhead := h.head n hn
        dsimp only
        omega
    · rw [Option.mem_def.mp ho, Option.getD_some] at hto
      have hon := h.wellFormed.ordered o ho n hn
      refine ⟨?_, ?_⟩
      · dsimp only
        omega
      · dsimp only
        omega
  | recent hp hrequested hloaded =>
    refine ⟨Int.le_max_left _ _, ?_, le_refl _, fun o ho n hn => ?_⟩
    · unfold mailScanBlockWindow
      dsimp only
      omega
    · rw [hrequested] at hreaches
      have hwindow := hreaches hp hloaded n hn
      have hon := h.wellFormed.ordered o ho n hn
      have hnhead := h.head n hn
      have hblock := (h.wellFormed.newest n hn).1
      unfold mailScanBlockWindow at hwindow ⊢
      refine ⟨?_, ?_⟩
      · dsimp only
        omega
      · dsimp only
        omega
  | @newer fromBlock hp hrequested hloaded hfrom hle =>
    obtain ⟨n, hn⟩ := Option.ne_none_iff_exists'.mp (h.loaded hloaded)
    rw [hn, Option.getD_some] at hfrom
    have hblock := (h.wellFormed.newest n hn).1
    have hnhead := h.head n hn
    refine ⟨?_, hle, le_refl _, fun o ho n' hn' => ?_⟩
    · dsimp only
      omega
    · cases hn.symm.trans hn'
      have hon := h.wellFormed.ordered o ho n hn
      refine ⟨?_, ?_⟩
      · dsimp only
        omega
      · dsimp only
        omega

theorem cursor_stored {c : MailScanCursor} (hstored : s.stored = some c.save)
    (hwell : c.WellFormed) : s.cursor = c := by
  rw [Sys.cursor, hstored]
  exact loadMailScanCursor_save hwell

theorem isBlockNumber_of_le {n head : Int} (hn : 0 ≤ n) (hle : n ≤ head)
    (hhead : IsBlockNumber head) : IsBlockNumber n := ⟨hn, le_trans hle hhead.2⟩

theorem Covered.pause {s' : Sys} (h : Covered s) {token : Text} (hfrom : 0 ≤ range.fromBlock)
    (hordered : range.fromBlock ≤ range.toBlock) (hto : range.toBlock ≤ s.head)
    (hhead : IsBlockNumber s.head) (hadjoins : Adjoins s.cursor range.fromBlock range.toBlock)
    (hpause : finishScan s range (some token) = .ok s') : Covered s' := by
  simp only [finishScan, bind_ok, pure_ok] at hpause
  obtain ⟨c, hc, hs'⟩ := hpause
  simp only [pauseMailScan, bind_ok] at hc
  obtain ⟨token', htoken', hc⟩ := hc
  cases token' with
  | none => cases hc
  | some token' =>
    have htoken := (normalizeContinuationToken_some.mp htoken').2
    cases hc
    have hwell : MailScanCursor.WellFormed { s.cursor with
        pending := some ⟨range.direction, range.fromBlock, range.toBlock, token'⟩ } := by
      refine ⟨h.wellFormed.oldest, h.wellFormed.newest, h.wellFormed.ordered, fun p hp => ?_⟩
      cases hp
      exact ⟨isBlockNumber_of_le hfrom (le_trans hordered hto) hhead,
        isBlockNumber_of_le (le_trans hfrom hordered) hto hhead, hordered, htoken⟩
    have hcursor := cursor_stored (congrArg Sys.stored hs') hwell
    cases hs'
    refine ⟨?_, ?_, ?_, ?_, ?_, ?_⟩
    · rw [hcursor]
      exact hwell
    · rw [hcursor]
      exact h.both
    · rw [hcursor]
      exact h.head
    · rw [hcursor]
      intro p hp
      cases hp
      exact ⟨hto, hadjoins⟩
    · rw [hcursor]
      exact h.loaded
    · rw [hcursor]
      exact h.read

/-- The ends of a cursor after a range that adjoins it: what lies between them is in the range or
was between the ends before. -/
theorem completeMailScan_ends {c : MailScanCursor} (hwell : c.WellFormed)
    (hboth : c.oldestScannedBlock = none ↔ c.newestScannedBlock = none)
    (hordered : range.fromBlock ≤ range.toBlock)
    (hadjoins : Adjoins c range.fromBlock range.toBlock) :
    ∃ o n, completeMailScan c range = ⟨some o, some n, none⟩ ∧ o ≤ n ∧
      (o = range.fromBlock ∨ c.oldestScannedBlock = some o) ∧
      (n = range.toBlock ∨ c.newestScannedBlock = some n) ∧
      ∀ b, o ≤ b → b ≤ n → (range.fromBlock ≤ b ∧ b ≤ range.toBlock) ∨
        ∃ o' ∈ c.oldestScannedBlock, ∃ n' ∈ c.newestScannedBlock, o' ≤ b ∧ b ≤ n' := by
  unfold completeMailScan
  cases ho : c.oldestScannedBlock with
  | none =>
    rw [hboth.mp ho]
    exact ⟨range.fromBlock, range.toBlock, rfl, hordered, .inl rfl, .inl rfl,
      fun b hfrom hto => .inl ⟨hfrom, hto⟩⟩
  | some o =>
    obtain ⟨n, hn⟩ := Option.ne_none_iff_exists'.mp fun hnone =>
      absurd (ho.symm.trans (hboth.mpr hnone)) (Option.some_ne_none o)
    have hon := hwell.ordered o ho n hn
    obtain ⟨hbefore, hafter⟩ := hadjoins o ho n hn
    rw [hn]
    refine ⟨min o range.fromBlock, max n range.toBlock, rfl, ?_, ?_, ?_, fun b hfrom hto => ?_⟩
    · omega
    · rcases le_total o range.fromBlock with hle | hle
      · exact .inr (congrArg some (min_eq_left hle).symm)
      · exact .inl (min_eq_right hle)
    · rcases le_total n range.toBlock with hle | hle
      · exact .inl (max_eq_right hle)
      · exact .inr (congrArg some (max_eq_left hle).symm)
    · by_cases hin : range.fromBlock ≤ b ∧ b ≤ range.toBlock
      · exact .inl hin
      · refine .inr ⟨o, rfl, n, rfl, ?_, ?_⟩
        · omega
        · omega

theorem Covered.complete {s' : Sys} (h : Covered s) (hfrom : 0 ≤ range.fromBlock)
    (hordered : range.fromBlock ≤ range.toBlock) (hto : range.toBlock ≤ s.head)
    (hhead : IsBlockNumber s.head) (hadjoins : Adjoins s.cursor range.fromBlock range.toBlock)
    (hcomplete : finishScan s range none = .ok s') : Covered s' := by
  obtain ⟨o, n, hc, hon, ho, hn, hbetween⟩ :=
    completeMailScan_ends h.wellFormed h.both hordered hadjoins
  have ho0 : IsBlockNumber o := by
    rcases ho with rfl | ho
    · exact isBlockNumber_of_le hfrom (le_trans hordered hto) hhead
    · exact h.wellFormed.oldest o ho
  have hnhead : n ≤ s.head := by
    rcases hn with rfl | hn
    · exact hto
    · exact h.head n hn
  have hwell : MailScanCursor.WellFormed ⟨some o, some n, none⟩ := by
    refine ⟨?_, ?_, ?_, fun p hp => (Option.not_mem_none p hp).elim⟩
    · rintro _ ⟨⟩
      exact ho0
    · rintro _ ⟨⟩
      exact isBlockNumber_of_le (le_trans ho0.1 hon) hnhead hhead
    · rintro _ ⟨⟩ _ ⟨⟩
      exact hon
  have hs' := Except.ok.inj hcomplete
  have hcursor : s'.cursor = ⟨some o, some n, none⟩ :=
    cursor_stored ((congrArg Sys.stored hs').symm.trans (congrArg (some ·.save) hc)) hwell
  have hread : s'.read = s.read ++ [(range.fromBlock, range.toBlock)] :=
    (congrArg Sys.read hs').symm
  refine ⟨?_, ?_, ?_, ?_, ?_, ?_⟩
  · rw [hcursor]
    exact hwell
  · rw [hcursor]
    exact ⟨nofun, nofun⟩
  · rw [hcursor, ← congrArg Sys.head hs']
    rintro _ ⟨⟩
    exact hnhead
  · rw [hcursor]
    exact fun p hp => (Option.not_mem_none p hp).elim
  · rw [hcursor]
    exact fun _ => nofun
  · rw [hcursor]
    rintro _ ⟨⟩ _ ⟨⟩ b hob hbn
    unfold Sys.Read
    rw [hread]
    rcases hbetween b hob hbn with hin | ⟨o', ho', n', hn', hob', hbn'⟩
    · exact ⟨_, List.mem_append_right _ List.mem_cons_self, hin⟩
    · obtain ⟨r, hr, hb⟩ := h.read o' ho' n' hn' b hob' hbn'
      exact ⟨r, List.mem_append_left _ hr, hb⟩

theorem Covered.step (h : Covered s) {a : Action} (ha : Reaches s a) : Covered (step s a) := by
  cases a with
  | grow head =>
    unfold Mail.step
    dsimp only
    split
    · rename_i hle
      exact ⟨h.wellFormed, h.both, fun n hn => le_trans (h.head n hn) hle,
        fun p hp => ⟨le_trans (h.pending p hp).1 hle, (h.pending p hp).2⟩, h.loaded, h.read⟩
    · exact h
  | session => exact ⟨h.wellFormed, h.both, h.head, h.pending, fun hn => Bool.noConfusion hn, h.read⟩
  | scan requested replies =>
    unfold Mail.step
    dsimp only
    split
    · rename_i s' hs'
      simp only [scan, bind_ok] at hs'
      obtain ⟨range, hplan, hs'⟩ := hs'
      cases range with
      | none =>
        cases hs'
        exact h
      | some range =>
        simp only [bind_ok] at hs'
        obtain ⟨continuationToken, -, hfinish⟩ := hs'
        obtain ⟨hhead, hplanned⟩ := plan_cases hplan
        obtain ⟨hfrom, hordered, hto, hadjoins⟩ := h.planned ha hhead hplanned
        cases continuationToken with
        | none => exact h.complete hfrom hordered hto hhead hadjoins hfinish
        | some token => exact h.pause hfrom hordered hto hhead hadjoins hfinish
    · exact h

theorem Covered.reaches_all (h : Covered s)
    (hnewer : planMailScan s.cursor s.head .newer s.recentLoaded = .ok none)
    (holder : planMailScan s.cursor s.head .older s.recentLoaded = .ok none) :
    ∃ o ∈ s.cursor.oldestScannedBlock, ∃ n ∈ s.cursor.newestScannedBlock, o ≤ 0 ∧ s.head ≤ n := by
  obtain ⟨hloaded, hend⟩ := plan_none_newer hnewer
  obtain ⟨n, hn⟩ := Option.ne_none_iff_exists'.mp (h.loaded hloaded)
  obtain ⟨o, ho⟩ := Option.ne_none_iff_exists'.mp fun hnone =>
    h.loaded hloaded (h.both.mp hnone)
  have hstart := plan_none_older holder
  rw [ho, Option.getD_some] at hstart
  rw [hn, Option.getD_some] at hend
  refine ⟨o, ho, n, hn, ?_, ?_⟩
  · omega
  · omega

theorem scan_covers (head : Int) (as : List Action) (h : Along step Reaches (fresh head) as) :
    let s := run step (fresh head) as
    (∀ o ∈ s.cursor.oldestScannedBlock, ∀ n ∈ s.cursor.newestScannedBlock, ∀ b, o ≤ b → b ≤ n →
      s.Read b) ∧ (planMailScan s.cursor s.head .newer s.recentLoaded = .ok none →
      planMailScan s.cursor s.head .older s.recentLoaded = .ok none →
      ∀ b, 0 ≤ b → b ≤ s.head → s.Read b) := by
  intro s
  have hcovered : Covered s :=
    run_invariant_along (I := Covered) (fun _ _ ha hs => hs.step ha) h (covered_fresh head)
  refine ⟨hcovered.read, fun hnewer holder b hfrom hto => ?_⟩
  obtain ⟨o, ho, n, hn, hstart, hend⟩ := hcovered.reaches_all hnewer holder
  exact hcovered.read o ho n hn b (le_trans hstart hfrom) (le_trans hto hend)

/-- Two sessions: the second begins within a window of the blocks that were scanned. -/
def twoSessions : List Action :=
  [.scan .newer [some (.string "page2".toList), none], .grow 140, .scan .newer [none], .session,
    .grow 2100, .scan .newer [none], .scan .older [none], .grow 2101, .scan .newer [none]]

theorem scan_covers_twoSessions :
    let s := run step (fresh 100) twoSessions
    (∀ o ∈ s.cursor.oldestScannedBlock, ∀ n ∈ s.cursor.newestScannedBlock, ∀ b, o ≤ b → b ≤ n →
      s.Read b) ∧ (planMailScan s.cursor s.head .newer s.recentLoaded = .ok none →
      planMailScan s.cursor s.head .older s.recentLoaded = .ok none →
      ∀ b, 0 ≤ b → b ≤ s.head → s.Read b) := scan_covers 100 twoSessions (by decide +kernel)

/-- A session that begins 9900 blocks behind the head. -/
def lateSession : List Action := [.scan .newer [none], .grow 10000, .session, .scan .newer [none]]

/-- The recent window of the late session moves the newest end over blocks that no scan read, and
nothing is planned any more. -/
theorem recent_window_gap :
    let s := run step (fresh 100) lateSession
    s.cursor = ⟨some 0, some 10000, none⟩ ∧ ¬ s.Read 101 ∧
    planMailScan s.cursor s.head .newer s.recentLoaded = .ok none ∧
    planMailScan s.cursor s.head .older s.recentLoaded = .ok none := by
  decide +kernel

end App20.Mail
