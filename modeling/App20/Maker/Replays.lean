import App20.Maker.QuoteRuns

/-!
# Quotes over a run

Every quote of version 3 that a maker node returns, over any steps: the first one for a lock, and
those that are made again of its record.

* `quoted_reached`: the versions of a node are tracked after any steps.
* `quotes_agree`: two quotes that are returned for the same RFQ are the same.
-/

namespace App20.Maker

open App20.Lib App20.Lib.Exec App20.Domain App20.Intents

variable {ids : List Text} {returned : List Bond} {w w' : Node} {config : Config} {now : Int}
  {append : Append} {locks : Locks}

/-! ## `quoteV3` -/

/-- The id that a call of `quoteV3` draws for a new lock. -/
def QuoteAnswers.drawn (answers : QuoteAnswers) : Option Text :=
  match lockIdentity answers with
  | .ok (value, _) => some (hex value.toNat)
  | .error _ => none

/-- What `quoteV3` reads of a lock: the record of a lock that is there, or a new one. -/
inductive Acquires (rfqDigest : Text) (drawn : Option Text) (s t : Books) : Acquisition → Prop
  | existing {r : StoredLock} (same : t = s) (stored : r ∈ s.locks.entries)
      (digest : r.rfqDigest = rfqDigest) (signed : r.signature.isSome = true) :
      Acquires rfqDigest drawn s t (.existing r)
  | refused {refusal : Refusal} (same : t = s) : Acquires rfqDigest drawn s t (.refused refusal)
  | acquired {r : StoredLock} {balance : Int} (put : t.locks = s.locks.put r)
      (new : NewLock s.locks r) (id : drawn = some r.lockId) (digest : r.rfqDigest = lowered rfqDigest)
      (first : ∀ r' ∈ s.locks.entries, r'.rfqDigest ≠ rfqDigest)
      (hash : r.lockTxHash = zeroFelt) (unsigned : r.signature = none) :
      Acquires rfqDigest drawn s t (.acquired r balance)

variable {a : Acquisition} {rfqDigest : Text} {s t : Books} {rfq : PrivateRfqV2}
  {answers : QuoteAnswers} {r : StoredLock} {x : Step} {q : SolverQuoteV3} {steps : List Step}

theorem acquires_refuse {code : RefusalCode} {reason : Text} {drawn : Option Text}
    (h : Returns (refuse code reason) s a t) : Acquires rfqDigest drawn s t a := by
  obtain ⟨refusal, -, h⟩ := returns_lift_bind.mp h
  obtain ⟨rfl, rfl⟩ := returns_pure.mp h
  exact .refused rfl

theorem putNewLock_acquires {built : MakerSchedule} {last : PriceSchedulePoint}
    {walletBalance : Int} (hfirst : ∀ r' ∈ s.locks.entries, r'.rfqDigest ≠ rfqDigest)
    (h : Returns (putNewLock rfq rfqDigest built last walletBalance answers now) s a t)
    (hnew : ∀ record balance, a = .acquired record balance →
      NewLock s.locks record ∧ t.locks = s.locks.put record) :
    Acquires rfqDigest answers.drawn s t a := by
  unfold putNewLock at h
  split at h
  · exact acquires_refuse h
  · rename_i value nonce hidentity
    split at h
    · exact acquires_refuse h
    · rw [returns_get_bind] at h
      split at h
      · exact acquires_refuse h
      · obtain ⟨record, hrecord, h⟩ := returns_lift_bind.mp h
        obtain ⟨_, _, -, h⟩ := returns_bind.mp h
        obtain ⟨rfl, -⟩ := returns_pure.mp h
        obtain ⟨hlock, hput⟩ := hnew record walletBalance rfl
        have hbond := canonical_bond hrecord
        refine .acquired hput hlock ?_ (congrArg (fun b => b.terms.rfqDigest) hbond) hfirst
          ?_ (congrArg Bond.signature hbond)
        · have hid : record.lockId = lowered (hex value.toNat) := congrArg Bond.lockId hbond
          rw [hid, lowered, trim_hex, toLowerCase_hex, QuoteAnswers.drawn, hidentity]
        · have hhash : record.lockTxHash = lowered "0x0".toList := congrArg Bond.lockTxHash hbond
          rw [hhash]
          decide

theorem lockSchedule_acquires {built : MakerSchedule} {available walletBalance : Int}
    (hfirst : ∀ r' ∈ s.locks.entries, r'.rfqDigest ≠ rfqDigest)
    (h : Returns (lockSchedule config rfq rfqDigest built available walletBalance answers now) s a t)
    (hnew : ∀ record balance, a = .acquired record balance →
      NewLock s.locks record ∧ t.locks = s.locks.put record) :
    Acquires rfqDigest answers.drawn s t a := by
  unfold lockSchedule at h
  split at h
  · split at h
    · exact acquires_refuse h
    · split at h
      · exact acquires_refuse h
      · exact putNewLock_acquires hfirst h hnew
  · exact acquires_refuse h
  · exact acquires_refuse h

theorem acquireLock_acquires (h : Returns (acquireLock config rfq rfqDigest answers now) s a t) :
    Acquires rfqDigest answers.drawn s t a := by
  have hnew : ∀ record balance, a = .acquired record balance →
      NewLock s.locks record ∧ t.locks = s.locks.put record := by
    rintro record balance rfl
    exact acquireLock_new h
  unfold acquireLock at h
  rw [returns_get_bind] at h
  dsimp only at h
  split at h
  · rename_i prior hprior
    split at h
    · rename_i hsigned
      obtain ⟨rfl, rfl⟩ := returns_pure.mp h
      exact .existing rfl (List.mem_of_find?_eq_some hprior)
        (by simpa using List.find?_some hprior) hsigned.1
    · exact acquires_refuse h
  · rename_i hnone
    have hfirst : ∀ r' ∈ s.locks.entries, r'.rfqDigest ≠ rfqDigest := fun r' hr' => by
      simpa using List.find?_eq_none.mp hnone r' hr'
    split at h
    · exact acquires_refuse h
    · obtain ⟨records, -, h⟩ := returns_lift_bind.mp h
      split at h
      · exact acquires_refuse h
      · exact acquires_refuse h
      · exact lockSchedule_acquires hfirst h hnew

/-! ## The steps of `quoteV3` -/

def Step.drawnLockId : Step → Option Text
  | .quote _ answers _ _ => answers.drawn
  | _ => none

/-- The record and signature of the quote that is made again for a repeated RFQ. -/
def Node.replayed (config : Config) (w : Node) (rfq : PrivateRfqV2) (answers : QuoteAnswers)
    (now : Int) (append : Append) : Option (StoredLock × Text) :=
  match checkRfq config rfq now with
  | .ok (.inr rfqDigest) =>
    match (lockTransaction (acquireLock config rfq rfqDigest answers now) append w.journal).1 with
    | .ok (.existing record) => record.signature.map fun signature => (record, signature)
    | _ => none
  | _ => none

/-- The digests of RFQs are 32-byte hex values. -/
def HexDigests (config : Config) : Prop := ∀ rfq, isHex32 (config.digestPrivateRfqV2 rfq) = true

theorem checkRfq_digest (h : checkRfq config rfq now = .ok (.inr rfqDigest)) :
    ∃ canonical, canonicalPrivateRfqV2 rfq = .ok canonical ∧
      rfqDigest = config.digestPrivateRfqV2 canonical := by
  unfold checkRfq at h
  obtain ⟨_, -, h⟩ := bind_ok.mp h
  obtain ⟨canonical, hcanonical, h⟩ := bind_ok.mp h
  refine ⟨canonical, ofProtocol_ok hcanonical, ?_⟩
  obtain ⟨_, -, h⟩ := bind_ok.mp h
  split at h
  · obtain ⟨_, -, h⟩ := bind_ok.mp h
    cases h
  · dsimp only at h
    split at h
    · obtain ⟨_, -, h⟩ := bind_ok.mp h
      cases h
    · split at h
      · obtain ⟨_, -, h⟩ := bind_ok.mp h
        cases h
      · split at h
        · obtain ⟨_, -, h⟩ := bind_ok.mp h
          cases h
        · cases h
          rfl

theorem Quoted.widen (h : Quoted ids returned w) (ids' : List Text) :
    Quoted (ids ++ ids') returned w :=
  ⟨h.tracked, h.regular, fun b hb => List.mem_append_left _ (h.drawn b hb),
    fun p hp => List.mem_append_left _ (h.claims p hp), h.kept, h.digests⟩

/-- The store is left, and operations may start that have read nothing of it. -/
theorem Quoted.left {fs : List Flow} (h : Quoted ids returned w) (hleft : Left w.journal w'.journal)
    (hflows : w'.flows = w.flows ++ fs) (hfs : ∀ f ∈ fs, f.phase.Continues []) :
    Quoted ids returned w' := by
  have hnone : ∀ f ∈ fs, f.claim = none := fun f hf => Flow.claim_of_idle (hfs f hf).1
  refine h.mono (Or.inl hleft.memory) hleft.durable ?_ ?_ ?_
  · rw [Node.claims, hflows, List.filterMap_append, List.filterMap_eq_nil_iff.mpr hnone,
      List.append_nil]
    exact List.Sublist.refl _
  · intro f hf v hv
    rw [hflows] at hf
    rcases List.mem_append.mp hf with hf | hf
    · exact Or.inr (Or.inr ⟨f, hf, v, hv, rfl⟩)
    · obtain ⟨u, hu, -⟩ := (hfs f hf).2 v hv
      cases hu
  · intro f hf
    rw [hflows] at hf
    rcases List.mem_append.mp hf with hf | hf
    · exact h.regular f hf
    · exact Or.inl (hfs f hf).1

/-- A quote is made again of a record in the store. -/
theorem Quoted.replay (h : Quoted ids returned w) (hr : r ∈ w.journal.memory.locks.entries)
    (hsame : Left w.journal w'.journal) (hflows : w'.flows = w.flows)
    (hopened : w.journal.memory.locks = w.journal.durable.locks)
    (hsigned : r.signature.isSome = true) : Quoted ids (returned ++ [r.bond]) w' := by
  have hnext : Quoted ids returned w' :=
    h.left hsame (hflows.trans (List.append_nil _).symm) fun f hf => by cases hf
  have hmem : r ∈ w'.journal.memory.locks.entries := hsame.memory ▸ hr
  refine ⟨hnext.tracked.mono (fun b hb => ?_) (List.Sublist.refl _), hnext.regular, hnext.drawn,
    hnext.claims, ⟨?_, ?_⟩, hnext.digests⟩
  · rcases hb with hb | hb
    · exact Or.inl hb
    · rcases List.mem_append.mp hb with hb | hb
      · exact Or.inr hb
      · rw [List.mem_singleton.mp hb]
        exact Or.inl (.memory hmem)
  · exact Kept.add hnext.kept.memory hsigned hmem rfl rfl
  · refine Kept.add hnext.kept.durable hsigned (r := r) ?_ rfl rfl
    rw [hsame.durable, ← hopened]
    exact hr

theorem Kept.put_new (h : Kept returned locks) (hnew : locks.get? r.lockId = none) :
    Kept returned (locks.put r) := by
  intro b hb
  obtain ⟨hsigned, r', hr', hid, hdigest⟩ := h b hb
  refine ⟨hsigned, r', Table.mem_put.mpr (Or.inr ⟨hr', fun hsame => ?_⟩), hid, hdigest⟩
  rw [← show r'.lockId = r.lockId from hsame, Table.get?_mem hr'] at hnew
  cases hnew

theorem DistinctDigests.put_new (h : DistinctDigests locks)
    (hnew : ∀ r' ∈ locks.entries, r'.rfqDigest ≠ r.rfqDigest) : DistinctDigests (locks.put r) := by
  intro x hx y hy hsame
  rcases Table.mem_put.mp hx with hxr | ⟨hx', -⟩
  · rcases Table.mem_put.mp hy with hyr | ⟨hy', -⟩
    · rw [hxr, hyr]
    · exact absurd (hsame.symm.trans (congrArg StoredLock.rfqDigest hxr)) (hnew y hy')
  · rcases Table.mem_put.mp hy with hyr | ⟨hy', -⟩
    · exact absurd (hsame.trans (congrArg StoredLock.rfqDigest hyr)) (hnew x hx')
    · exact h x hx' y hy' hsame

/-- A new lock, with the operation that quotes it if the caller was told of the lock. -/
theorem Quoted.acquired {fs : List Flow} (h : Quoted ids returned w) (hid : r.lockId ∉ ids)
    (hnew : NewLock w.journal.memory.locks r)
    (hfirst : ∀ r' ∈ w.journal.memory.locks.entries, r'.rfqDigest ≠ r.rfqDigest)
    (hhash : r.lockTxHash = zeroFelt) (hunsigned : r.signature = none)
    (hwrote : Wrote w.journal w'.journal (w.journal.memory.locks.put r))
    (hflows : w'.flows = w.flows ++ fs)
    (hfs : fs = [] ∨ fs = [⟨r.lockId, now, .release, [], .locking r⟩]) :
    Quoted (ids ++ [r.lockId]) returned w' := by
  have hholds : ∀ P : Locks → Prop, P w.journal.memory.locks → P (w.journal.memory.locks.put r) →
      w'.journal.Holds fun s => P s.locks := by
    intro P hbefore hafter
    refine ⟨?_, ?_⟩
    · rcases hwrote.memory with ⟨-, hmemory⟩ | ⟨-, hmemory⟩ <;> rw [hmemory]
      · exact hafter
      · exact hbefore
    · rw [hwrote.durable]
      exact hafter
  have hhas : ∀ b, w'.Has b → w.Has b ∨ b = r.bond := by
    have hstored : w'.journal.Holds fun s => ∀ r' ∈ s.locks.entries, w.Has r'.bond ∨
        r'.bond = r.bond := by
      refine hholds (fun locks => ∀ r' ∈ locks.entries, w.Has r'.bond ∨ r'.bond = r.bond)
        (fun r' hr' => Or.inl (.memory hr')) fun r' hr' => ?_
      rcases Table.mem_put.mp hr' with rfl | ⟨hr', -⟩
      · exact Or.inr rfl
      · exact Or.inl (.memory hr')
    rintro b (⟨r', hr', rfl⟩ | ⟨r', hr', rfl⟩ | ⟨f, hf, v, hv, rfl⟩)
    · exact hstored.memory r' hr'
    · exact hstored.durable r' hr'
    · rw [hflows] at hf
      rcases List.mem_append.mp hf with hf | hf
      · exact Or.inl (Or.inr (Or.inr ⟨f, hf, v, hv, rfl⟩))
      · rcases hfs with rfl | rfl
        · cases hf
        · rw [List.mem_singleton.mp hf] at hv
          rw [List.mem_singleton.mp hv]
          exact Or.inr rfl
  have hclaims : w'.claims.Sublist (w.claims ++ [(r.lockId, .pending)]) := by
    rw [Node.claims, hflows, List.filterMap_append]
    refine List.Sublist.append_left ?_ _
    rcases hfs with rfl | rfl
    · exact List.nil_sublist _
    · exact List.Sublist.refl _
  have htracked : Tracked (adding (fun b => w.Has b ∨ b ∈ returned) r.bond)
      (w.claims ++ [(r.lockId, .pending)]) := by
    refine Tracked.acquire h.tracked ?_ ?_ hhash hunsigned
    · rintro b (hb | hb) hsame
      · exact hid (show r.bond.lockId ∈ ids from hsame ▸ h.drawn b hb)
      · obtain ⟨-, r', hr', hr'id, -⟩ := h.kept.memory b hb
        have hr'ids := h.drawn r'.bond (.memory hr')
        rw [show r'.bond.lockId = r.lockId from hr'id.trans hsame] at hr'ids
        exact hid hr'ids
    · intro p hp hsame
      exact hid (show r.bond.lockId ∈ ids from hsame ▸ h.claims p hp)
  refine ⟨htracked.mono (fun b hb => ?_) hclaims, ?_, ?_, ?_, ?_, ?_⟩
  · rcases hb with hb | hb
    · exact (hhas b hb).imp_left Or.inl
    · exact Or.inl (Or.inr hb)
  · intro f hf
    rw [hflows] at hf
    rcases List.mem_append.mp hf with hf | hf
    · exact h.regular f hf
    · rcases hfs with rfl | rfl
      · cases hf
      · rw [List.mem_singleton.mp hf]
        exact Or.inr ⟨.locking, fun v hv => by rw [List.mem_singleton.mp hv]⟩
  · intro b hb
    rcases hhas b hb with hb | rfl
    · exact List.mem_append_left _ (h.drawn b hb)
    · exact List.mem_append_right _ (List.mem_singleton_self _)
  · intro p hp
    rcases List.mem_append.mp (hclaims.subset hp) with hp | hp
    · exact List.mem_append_left _ (h.claims p hp)
    · rw [List.mem_singleton.mp hp]
      exact List.mem_append_right _ (List.mem_singleton_self _)
  · exact hholds _ h.kept.memory (Kept.put_new h.kept.memory hnew.new)
  · exact hholds _ h.digests.memory (DistinctDigests.put_new h.digests.memory hfirst)

theorem lowered_of_isHex32 {t : Text} (h : isHex32 t = true) : lowered t = t := by
  obtain ⟨htrim, hlower, -⟩ := normal_of_isHex32 h
  rw [lowered, htrim, hlower]

theorem Quoted.quote (h : Quoted ids returned w) (hs : SoundNode w) (hdigests : HexDigests config)
    (hdrawn : ∀ id ∈ answers.drawn, id ∉ ids) :
    Quoted (ids ++ answers.drawn.toList)
      (returned ++ ((w.replayed config rfq answers now append).map signedBond).toList)
      (w.quote config rfq answers now append) := by
  have hsame : ∀ w' : Node, Left w.journal w'.journal → w'.flows = w.flows →
      Quoted ids returned w' := fun w' hleft hflows =>
    h.left hleft (hflows.trans (List.append_nil _).symm) fun f hf => by cases hf
  unfold Node.quote Node.replayed
  obtain ⟨rfqDigest, hchecked⟩ | hrefused :
      (∃ rfqDigest, checkRfq config rfq now = .ok (.inr rfqDigest)) ∨
        ∀ rfqDigest, checkRfq config rfq now ≠ .ok (.inr rfqDigest) := by
    by_cases hexists : ∃ rfqDigest, checkRfq config rfq now = .ok (.inr rfqDigest)
    · exact Or.inl hexists
    · exact Or.inr (not_exists.mp hexists)
  swap
  · split
    · rename_i rfqDigest hchecked
      exact absurd hchecked (hrefused rfqDigest)
    · rw [Option.map_none, Option.toList_none, List.append_nil]
      split
      · exact h.widen _
      · exact h.widen _
      · rename_i rfqDigest hchecked
        exact absurd hchecked (hrefused rfqDigest)
  rw [hchecked]
  dsimp only
  obtain ⟨canonical, -, hdigest⟩ := checkRfq_digest hchecked
  have hlowered : lowered rfqDigest = rfqDigest := by
    rw [hdigest]
    exact lowered_of_isHex32 (hdigests canonical)
  have hsound : ∀ a t, Returns (acquireLock config rfq rfqDigest answers now) w.journal.memory a t →
      SoundLocks t.locks := by
    intro a t hreturns
    cases acquireLock_acquires hreturns with
    | existing hsame | refused hsame =>
      rw [hsame]
      exact hs.store.locks.memory
    | acquired hput hnew =>
      rw [hput]
      exact SoundLocks.put hs.store.locks.memory hnew.sound
  have hwrites := lockTransaction_wrote append hs.store hsound
  generalize lockTransaction (acquireLock config rfq rfqDigest answers now) append w.journal = p
    at hwrites
  obtain ⟨result, j'⟩ := p
  dsimp only at hwrites
  rcases hwrites with ⟨hleft, hresult⟩ | ⟨a, t, hreturns, hwrote, hresult⟩
  · cases result with
    | ok a => exact absurd rfl (hresult a)
    | error e =>
      rw [Option.map_none, Option.toList_none, List.append_nil]
      exact (hsame { w with journal := j' } hleft rfl).widen _
  · cases acquireLock_acquires hreturns with
    | @existing r ht hr _ hsigned =>
      rw [ht] at hwrote
      have hleft := hwrote.left hs.store
      rcases hresult with ⟨rfl, -⟩ | ⟨e, rfl⟩
      · obtain ⟨signature, hsignature⟩ := Option.isSome_iff_exists.mp hsigned
        have hbond : signedBond (r, signature) = r.bond := by
          rw [signedBond, ← hsignature]
          rfl
        dsimp only
        rw [hsignature, Option.map_some, Option.map_some, Option.toList_some, hbond]
        have hnext : Quoted ids (returned ++ [r.bond]) { w with journal := j' } :=
          h.replay hr hleft rfl (hs.store.same hwrote.opened) hsigned
        exact hnext.widen _
      · rw [Option.map_none, Option.toList_none, List.append_nil]
        exact (hsame { w with journal := j' } hleft rfl).widen _
    | refused ht =>
      rw [ht] at hwrote
      have hleft := hwrote.left hs.store
      rcases hresult with ⟨rfl, -⟩ | ⟨e, rfl⟩ <;>
      · rw [Option.map_none, Option.toList_none, List.append_nil]
        exact (hsame { w with journal := j' } hleft rfl).widen _
    | @acquired r balance hput hnew hid hrdigest hfirst hhash hunsigned =>
      rw [hput] at hwrote
      rw [hid, Option.toList_some]
      have hfirst' : ∀ r' ∈ w.journal.memory.locks.entries, r'.rfqDigest ≠ r.rfqDigest := by
        rw [hrdigest, hlowered]
        exact hfirst
      have hnext : ∀ w' : Node, w'.journal = j' → ∀ fs, w'.flows = w.flows ++ fs →
          (fs = [] ∨ fs = [⟨r.lockId, now, .release, [], .locking r⟩]) →
          Quoted (ids ++ [r.lockId]) returned w' := fun w' hj fs hflows hfs =>
        h.acquired (hdrawn _ hid) hnew hfirst' hhash hunsigned (hj ▸ hwrote) hflows hfs
      rcases hresult with ⟨rfl, -⟩ | ⟨e, rfl⟩ <;>
        rw [Option.map_none, Option.toList_none, List.append_nil]
      · exact hnext _ rfl _ rfl (Or.inr rfl)
      · exact hnext { w with journal := j' } rfl [] (List.append_nil _).symm (Or.inl rfl)

/-! ## Steps -/

def signedRecord (config : Config) (w : Node) : Step → Option (StoredLock × Text)
  | .quote rfq answers now append => w.replayed config rfq answers now append
  | .commit i append =>
    match w.flows[i]? with
    | none => none
    | some f =>
      match f.phase with
      | .commit tx _ => tx.quoted (lockTransaction (tx.draft f.lockId f.now) append w.journal).1
      | _ => none
  | _ => none

/-- The step takes no operation on a lock further, and stops none. -/
def Step.starts : Step → Bool
  | .restart | .quote _ _ _ _ | .advance _ | .answer _ _ | .hand _ | .commit _ _ => false
  | _ => true

/-- Other steps may start an operation, which has read nothing yet. -/
theorem flows_started (hx : x.starts = true) :
    ∃ fs, (step config w x).flows = w.flows ++ fs ∧ ∀ f ∈ fs, f.phase.Continues [] := by
  have hnone : ∀ w' : Node, w'.flows = w.flows →
      ∃ fs, w'.flows = w.flows ++ fs ∧ ∀ f ∈ fs, f.phase.Continues [] := fun w' hflows =>
    ⟨[], hflows.trans (List.append_nil _).symm, fun f hf => by cases hf⟩
  have hone : ∀ (w' : Node) (f : Flow), w'.flows = w.flows → f.phase.Continues [] →
      ∃ fs, (w'.start f).flows = w.flows ++ fs ∧ ∀ g ∈ fs, g.phase.Continues [] := by
    intro w' f hflows hf
    refine ⟨[f], congrArg (· ++ [f]) hflows, fun g hg => ?_⟩
    rw [List.mem_singleton.mp hg]
    exact hf
  cases x with
  | restart | quote | advance | answer | hand | commit => cases hx
  | reserve request answers now append =>
    refine hnone _ ?_
    show (w.reserve config request answers now append).flows = w.flows
    unfold Node.reserve
    split <;> rfl
  | act op now append =>
    refine hnone _ ?_
    show (w.act config op now append).flows = w.flows
    unfold Node.act
    split <;> rfl
  | fill request attemptId now append =>
    refine hnone _ ?_
    show (w.fill request attemptId now append).flows = w.flows
    unfold Node.fill
    split
    · rfl
    · split <;> rfl
  | invokeFill i =>
    refine hnone _ ?_
    show (w.invokeFill i).flows = w.flows
    unfold Node.invokeFill
    split
    · rfl
    · split <;> rfl
  | answerFill i answer =>
    refine hnone _ ?_
    show (w.answerFill i answer).flows = w.flows
    unfold Node.answerFill
    split
    · rfl
    · split <;> rfl
  | commitFill i append =>
    refine hnone _ ?_
    show (w.commitFill i append).flows = w.flows
    unfold Node.commitFill
    split
    · rfl
    · split
      · split <;> rfl
      · rfl
      · rfl
  | settleExpired now =>
    show ∃ fs, (w.settleExpired now).flows = w.flows ++ fs ∧ _
    unfold Node.settleExpired
    split
    · exact hnone w rfl
    · exact hone w _ rfl (.nil rfl rfl)
  | recover now append =>
    show ∃ fs, (w.recover now append).flows = w.flows ++ fs ∧ _
    unfold Node.recover
    split
    · exact hnone w rfl
    · split
      · rename_i journal _
        exact hone { w with journal } _ rfl (.nil rfl rfl)
      · rename_i journal _
        exact hnone { w with journal } rfl
  | resolve lockId reason now =>
    show ∃ fs, (w.resolve lockId reason now).flows = w.flows ++ fs ∧ _
    unfold Node.resolve
    split
    · exact hnone w rfl
    · exact hone w _ rfl (.nil rfl rfl)
  | reconcileLock input now =>
    show ∃ fs, (w.reconcileLock input now).flows = w.flows ++ fs ∧ _
    unfold Node.reconcileLock
    split
    · exact hnone w rfl
    · exact hone w _ rfl continues_beginTerminal

theorem started_left (hs : SoundNode w) (hx : x.starts = true) :
    Left w.journal (step config w x).journal := by
  have hstore := step_store config x hs
  cases x with
  | restart | quote | advance | answer | hand | commit => cases hx
  | _ =>
    cases hstore with
    | left hleft => exact hleft

theorem Quoted.restart (h : Quoted ids returned w) (hs : SoundNode w) :
    Quoted ids returned w.restart := by
  obtain ⟨hdurable, -⟩ := reopen_locks hs.store
  refine h.mono ?_ (congrArg Books.locks hdurable) (List.nil_sublist _) (fun f hf => by cases hf)
    fun f hf => by cases hf
  unfold Node.restart Journal.reopen
  split
  · rename_i b hb
    exact Or.inr (read_locks hs.store.locks.durable.canonicalLocks hb)
  · exact Or.inl rfl

theorem Quoted.commit {i : Nat} (h : Quoted ids returned w) (hs : SoundNode w) :
    Quoted ids (returned ++ ((signedRecord config w (.commit i append)).map signedBond).toList)
      (w.commit i append) := by
  have hstays : w.commit i append = w → signedRecord config w (.commit i append) = none →
      Quoted ids (returned ++ ((signedRecord config w (.commit i append)).map signedBond).toList)
        (w.commit i append) := by
    intro hnode hrecord
    rw [hrecord, hnode, Option.map_none, Option.toList_none, List.append_nil]
    exact h
  cases hf : w.flows[i]? with
  | none =>
    refine hstays ?_ ?_
    · simp only [Node.commit, hf]
    · simp only [signedRecord, hf]
  | some f =>
    cases hphase : f.phase with
    | commit tx after =>
      have hsound := hs.flow hf
      unfold Flow.Sound at hsound
      rw [hphase] at hsound
      have hrecord : signedRecord config w (.commit i append) =
          tx.quoted (lockTransaction (tx.draft f.lockId f.now) append w.journal).1 := by
        simp only [signedRecord, hf, hphase]
      rw [hrecord]
      refine h.committed hs ⟨hf, hphase, ?_, ?_⟩
      · simp only [Node.commit, hf, hphase]
        exact committed_draft hs hsound.1
      · simp only [Node.commit, hf, hphase]
    | _ =>
      refine hstays ?_ ?_
      · simp only [Node.commit, hf, hphase]
      · simp only [signedRecord, hf, hphase]

theorem Quoted.step (h : Quoted ids returned w) (hs : SoundNode w) (hdigests : HexDigests config)
    (x : Step) (hdrawn : ∀ id ∈ x.drawnLockId, id ∉ ids) :
    Quoted (ids ++ x.drawnLockId.toList)
      (returned ++ ((signedRecord config w x).map signedBond).toList) (step config w x) := by
  by_cases hx : x.starts = true
  · obtain ⟨fs, hflows, hfs⟩ := @flows_started w config x hx
    have hnext := h.left (started_left hs hx) hflows hfs
    have hrecord : signedRecord config w x = none := by
      cases x with
      | restart | quote | advance | answer | hand | commit => cases hx
      | _ => rfl
    rw [hrecord, Option.map_none, Option.toList_none, List.append_nil]
    exact hnext.widen _
  have hstays : Quoted ids returned (Maker.step config w x) → signedRecord config w x = none →
      Quoted (ids ++ x.drawnLockId.toList)
        (returned ++ ((signedRecord config w x).map signedBond).toList)
        (Maker.step config w x) := by
    intro hnext hrecord
    rw [hrecord, Option.map_none, Option.toList_none, List.append_nil]
    exact hnext.widen _
  cases x with
  | restart => exact hstays (h.restart hs) rfl
  | quote rfq answers now append => exact h.quote hs hdigests hdrawn
  | advance i =>
    refine hstays ?_ rfl
    show Quoted ids returned (w.advance i)
    unfold Node.advance
    split
    · exact h
    · rename_i f hf
      obtain ⟨hturn, hid⟩ := @turn_advance w.journal.memory.locks f
      exact h.turn hf (hs.flow hf) hturn hid rfl rfl
  | answer i a =>
    refine hstays ?_ rfl
    show Quoted ids returned (w.answer i a)
    unfold Node.answer
    split
    · exact h
    · rename_i f hf
      obtain ⟨outstanding, hlearned⟩ := w.learn_eq f a
      rw [hlearned]
      exact h.turn hf (hs.flow hf) (turn_answer (hs.flow hf)) (Or.inl rfl) rfl rfl
  | hand i =>
    refine hstays ?_ rfl
    show Quoted ids returned (w.hand i)
    unfold Node.hand
    split
    · exact h
    · rename_i f hf
      split
      · obtain ⟨hturn, hid⟩ := @turn_hand w.journal.memory.locks f
        exact h.turn hf (hs.flow hf) hturn (Or.inl hid) rfl rfl
      · exact h
  | commit i append =>
    rw [show (Step.commit i append).drawnLockId = none from rfl, Option.toList_none,
      List.append_nil]
    exact h.commit hs
  | _ => exact absurd rfl hx

/-! ## Runs -/

def quoteReturned (config : Config) (w : Node) (x : Step) : Option SolverQuoteV3 :=
  match signedRecord config w x with
  | none => none
  | some (record, signature) =>
    let quote := quoteFor config record signature
    match x with
    | .quote _ _ _ _ =>
      match canonicalQuoteV3 quote.toUnsignedSolverQuoteV3 with
      | .ok _ => some quote
      | .error _ => none
    | _ => some quote

def quotesReturned (config : Config) : Node → List Step → List SolverQuoteV3
  | _, [] => []
  | w, x :: rest =>
    (quoteReturned config w x).toList ++ quotesReturned config (step config w x) rest

/-- The records and signatures that these quotes are made of. -/
def bondsSigned (config : Config) : Node → List Step → List Bond
  | _, [] => []
  | w, x :: rest =>
    ((signedRecord config w x).map signedBond).toList ++ bondsSigned config (step config w x) rest

theorem quoteReturned_bond (h : quoteReturned config w x = some q) :
    ∃ p, signedRecord config w x = some p ∧ q = (signedBond p).quote config := by
  unfold quoteReturned at h
  split at h
  · cases h
  · rename_i record signature hrecord
    refine ⟨(record, signature), hrecord, ?_⟩
    have hquote : quoteFor config record signature = q := by
      dsimp only at h
      split at h
      · split at h
        · exact Option.some.inj h
        · cases h
      · exact Option.some.inj h
    rw [← hquote, quoteFor_eq]
    rfl

theorem quotesReturned_bonds (h : q ∈ quotesReturned config w steps) :
    ∃ b ∈ bondsSigned config w steps, q = b.quote config := by
  induction steps generalizing w with
  | nil => cases h
  | cons x rest ih =>
    rcases List.mem_append.mp h with h | h
    · obtain ⟨p, hp, hq⟩ := quoteReturned_bond (Option.mem_toList.mp h)
      refine ⟨signedBond p, List.mem_append_left _ ?_, hq⟩
      rw [hp]
      exact List.mem_singleton_self _
    · obtain ⟨b, hb, hq⟩ := ih h
      exact ⟨b, List.mem_append_right _ hb, hq⟩

theorem Quoted.run (h : Quoted ids returned w) (hs : SoundNode w) (hdigests : HexDigests config)
    (hids : (ids ++ steps.filterMap Step.drawnLockId).Nodup) :
    Quoted (ids ++ steps.filterMap Step.drawnLockId) (returned ++ bondsSigned config w steps)
      (Lib.run (Maker.step config) w steps) := by
  induction steps generalizing ids returned w with
  | nil =>
    rw [List.filterMap_nil, List.append_nil, bondsSigned, List.append_nil]
    exact h
  | cons x rest ih =>
    have hcons : (x :: rest).filterMap Step.drawnLockId =
        x.drawnLockId.toList ++ rest.filterMap Step.drawnLockId := by
      rw [List.filterMap_cons]
      cases x.drawnLockId <;> rfl
    rw [hcons, ← List.append_assoc] at hids ⊢
    have hdrawn : ∀ id ∈ x.drawnLockId, id ∉ ids := by
      intro id hid hmem
      have hnodup := (List.nodup_append.mp hids).1
      exact (List.nodup_append.mp hnodup).2.2 id hmem id (Option.mem_toList.mpr hid) rfl
    rw [run_cons, bondsSigned, ← List.append_assoc]
    exact ih (h.step hs hdigests x hdrawn) (hs.step x) hids

theorem quoted_empty : Quoted [] [] Node.empty := by
  have hnone : ∀ b, ¬ Node.empty.Has b := by
    rintro b (⟨r, hr, -⟩ | ⟨r, hr, -⟩ | ⟨f, hf, -⟩)
    · cases hr
    · cases hr
    · cases hf
  have hkept : Kept [] Books.empty.locks := fun b hb => by cases hb
  have hdigests : DistinctDigests Books.empty.locks := fun r hr => by cases hr
  refine ⟨⟨?_, ?_, ?_, List.nodup_nil, fun p hp => (by cases hp), fun p hp => (by cases hp)⟩,
    fun f hf => (by cases hf), fun b hb => absurd hb (hnone b), fun p hp => (by cases hp),
    ⟨hkept, hkept⟩, ⟨hdigests, hdigests⟩⟩
  · exact fun a b ha => absurd ha (by simp [hnone])
  · exact fun a b ha => absurd ha (by simp [hnone])
  · exact fun a ha => absurd ha (by simp [hnone])

theorem Quoted.agree (h : Quoted ids returned w) {b b' : Bond} (hb : b ∈ returned)
    (hb' : b' ∈ returned) (hdigest : b.terms.rfqDigest = b'.terms.rfqDigest) : b = b' := by
  obtain ⟨hsigned, r, hr, hid, hrdigest⟩ := h.kept.memory b hb
  obtain ⟨hsigned', r', hr', hid', hrdigest'⟩ := h.kept.memory b' hb'
  have hsame : r.lockId = r'.lockId :=
    h.digests.memory r hr r' hr' (hrdigest.trans (hdigest.trans hrdigest'.symm))
  exact h.tracked.signed b b' (Or.inr hb) (Or.inr hb') (hid.symm.trans (hsame.trans hid'))
    hsigned hsigned'

theorem quotes_agree (hdigests : HexDigests config)
    (hids : (steps.filterMap Step.drawnLockId).Nodup) {q' : SolverQuoteV3}
    (hq : q ∈ quotesReturned config .empty steps) (hq' : q' ∈ quotesReturned config .empty steps)
    (hdigest : q.rfqDigest = q'.rfqDigest) : q = q' := by
  obtain ⟨b, hb, rfl⟩ := quotesReturned_bonds hq
  obtain ⟨b', hb', rfl⟩ := quotesReturned_bonds hq'
  have hquoted := quoted_empty.run (soundNode_reached config []) hdigests hids
  rw [hquoted.agree hb hb' hdigest]

theorem replay_digest (hs : SoundNode w)
    (h : quoteReturned config w (.quote rfq answers now append) = some q) :
    ∃ canonical, canonicalPrivateRfqV2 rfq = .ok canonical ∧
      q.rfqDigest = config.digestPrivateRfqV2 canonical := by
  obtain ⟨⟨r, signature⟩, hrecord, rfl⟩ := quoteReturned_bond h
  unfold signedRecord Node.replayed at hrecord
  dsimp only at hrecord
  split at hrecord
  · rename_i rfqDigest hchecked
    split at hrecord
    · rename_i record hresult
      obtain ⟨locks, u, v, hcloned, hbody, -⟩ := lockTransaction_ok (Prod.ext hresult rfl)
      rw [cloneLocks_eq hs.store.locks.memory.canonicalLocks] at hcloned
      cases hcloned
      obtain ⟨canonical, hcanonical, hdigest⟩ := checkRfq_digest hchecked
      refine ⟨canonical, hcanonical, ?_⟩
      obtain ⟨signature', -, hpair⟩ := Option.map_eq_some_iff.mp hrecord
      cases hpair
      cases acquireLock_acquires hbody with
      | existing hsame hstored hrdigest hsigned => exact hrdigest.trans hdigest
    · cases hrecord
  · cases hrecord

end App20.Maker
