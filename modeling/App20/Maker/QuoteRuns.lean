import App20.Maker.QuoteClaims

/-!
# Quotes of a node

The versions of locks that are in the store of a maker node and in its operations, tracked from one
step to the next.

* `Quoted.turn`: an operation that goes on without a write keeps them tracked.
* `Quoted.committed`: so does its transaction, which may return a quote.
-/

namespace App20.Maker

open App20.Lib App20.Lib.Exec App20.Domain App20.Intents

/-! ## Nodes -/

def Flow.claim (f : Flow) : Option (Text × Claim) := f.phase.claim.map fun c => (f.lockId, c)

/-- The locks that are being quoted. -/
def Node.claims (w : Node) : List (Text × Claim) := w.flows.filterMap Flow.claim

/-- A version that is stored, or that an operation may still write. -/
def Node.Has (w : Node) (b : Bond) : Prop :=
  (∃ r ∈ w.journal.memory.locks.entries, r.bond = b) ∨
    (∃ r ∈ w.journal.durable.locks.entries, r.bond = b) ∨
      ∃ f ∈ w.flows, ∃ v ∈ f.phase.versions, v.bond = b

def Kept (returned : List Bond) (locks : Locks) : Prop :=
  ∀ b ∈ returned, b.signature.isSome = true ∧
    ∃ r ∈ locks.entries, r.lockId = b.lockId ∧ r.rfqDigest = b.terms.rfqDigest

def DistinctDigests (locks : Locks) : Prop :=
  ∀ r ∈ locks.entries, ∀ r' ∈ locks.entries, r.rfqDigest = r'.rfqDigest → r.lockId = r'.lockId

/-- A node whose locks have ids that were drawn, and that has returned the quotes of these
versions. -/
structure Quoted (ids : List Text) (returned : List Bond) (w : Node) : Prop where
  tracked : Tracked (fun b => w.Has b ∨ b ∈ returned) w.claims
  regular : ∀ f ∈ w.flows, f.phase.Regular f.lockId
  drawn : ∀ b, w.Has b → b.lockId ∈ ids
  claims : ∀ p ∈ w.claims, p.1 ∈ ids
  kept : w.journal.Holds fun s => Kept returned s.locks
  digests : w.journal.Holds fun s => DistinctDigests s.locks

variable {ids : List Text} {returned : List Bond} {w w' : Node} {i : Nat} {f f' : Flow} {locks : Locks}
  {config : Config} {now : Int} {append : Append}

theorem Flow.claim_of_idle {f : Flow} (h : f.phase.idle = true) : f.claim = none := by
  rw [Flow.claim, Phase.claim_of_idle h, Option.map_none]

/-- The claim of one operation among those of all. -/
theorem claims_set {flows : List Flow} (hf : flows[i]? = some f) :
    ∃ front back, flows.filterMap Flow.claim = front ++ f.claim.toList ++ back ∧
      ∀ f' : Flow, (flows.set i f').filterMap Flow.claim = front ++ f'.claim.toList ++ back := by
  obtain ⟨hlt, rfl⟩ := List.getElem?_eq_some_iff.mp hf
  have hone : ∀ g : Flow, [g].filterMap Flow.claim = g.claim.toList := fun g => by
    rw [List.filterMap_cons]
    cases g.claim <;> rfl
  refine ⟨(flows.take i).filterMap Flow.claim, (flows.drop (i + 1)).filterMap Flow.claim, ?_, ?_⟩
  · conv_lhs => rw [← List.take_append_drop i flows, List.drop_eq_getElem_cons hlt]
    rw [List.filterMap_append, ← List.singleton_append, List.filterMap_append, hone,
      List.append_assoc]
  · intro f'
    rw [List.set_eq_take_append_cons_drop, if_pos hlt, List.filterMap_append,
      ← List.singleton_append, List.filterMap_append, hone, List.append_assoc]

variable {r : StoredLock} {tx : LockTx} {lockId : Text} {write : LockWrite} {j j' : Journal Books}
  {edit : Except MakerError LockWrite} {result : Except (Option MakerError) (Option StoredLock)}
  {after : After}

theorem Node.Has.memory (h : r ∈ w.journal.memory.locks.entries) : w.Has r.bond :=
  Or.inl ⟨r, h, rfl⟩

theorem Node.Has.flow {v : StoredLock} (hf : w.flows[i]? = some f) (hv : v ∈ f.phase.versions) :
    w.Has v.bond := Or.inr (Or.inr ⟨f, List.mem_of_getElem? hf, v, hv, rfl⟩)

/-- The store as it was, or read again, with operations that have read nothing new. -/
theorem Quoted.mono (h : Quoted ids returned w)
    (hmemory : w'.journal.memory.locks = w.journal.memory.locks ∨
      w'.journal.memory.locks = w.journal.durable.locks)
    (hdurable : w'.journal.durable.locks = w.journal.durable.locks)
    (hclaims : w'.claims.Sublist w.claims)
    (hversions : ∀ f ∈ w'.flows, ∀ v ∈ f.phase.versions, w.Has v.bond)
    (hregular : ∀ f ∈ w'.flows, f.phase.Regular f.lockId) : Quoted ids returned w' := by
  have hhas : ∀ b, w'.Has b → w.Has b := by
    rintro b (⟨r, hr, rfl⟩ | ⟨r, hr, rfl⟩ | ⟨f, hf, v, hv, rfl⟩)
    · rcases hmemory with hmemory | hmemory <;> rw [hmemory] at hr
      · exact .memory hr
      · exact Or.inr (Or.inl ⟨r, hr, rfl⟩)
    · rw [hdurable] at hr
      exact Or.inr (Or.inl ⟨r, hr, rfl⟩)
    · exact hversions f hf v hv
  have hholds : ∀ P : Locks → Prop, (w.journal.Holds fun s => P s.locks) →
      w'.journal.Holds fun s => P s.locks := by
    intro P hP
    refine ⟨?_, ?_⟩
    · rcases hmemory with hmemory | hmemory <;> rw [hmemory]
      · exact hP.memory
      · exact hP.durable
    · rw [hdurable]
      exact hP.durable
  exact ⟨h.tracked.mono (fun b hb => hb.imp_left (hhas b)) hclaims, hregular,
    fun b hb => h.drawn b (hhas b hb), fun p hp => h.claims p (hclaims.subset hp),
    hholds _ h.kept, hholds _ h.digests⟩

/-! ## Operations that go on -/

theorem Flow.claim_eq {f f' : Flow} (hphase : f'.phase = f.phase)
    (hid : f'.lockId = f.lockId ∨ f'.phase.idle = true) : f'.claim = f.claim := by
  rcases hid with hid | hidle
  · rw [Flow.claim, Flow.claim, hphase, hid]
  · rw [Flow.claim_of_idle hidle, Flow.claim_of_idle (hphase ▸ hidle)]

theorem turn_regular (hturn : Turn locks f.phase f'.phase) (h : f.phase.Regular f.lockId)
    (hid : f'.lockId = f.lockId ∨ f'.phase.idle = true) : f'.phase.Regular f'.lockId := by
  rcases hid with hid | hidle
  swap
  · exact Or.inl hidle
  rw [hid]
  generalize f'.phase = q at hturn
  cases hturn with
  | same => exact h
  | continues h => exact Or.inl h.1
  | @confirming record confirmed hlocking hconfirmed =>
    rw [hlocking] at h
    have hrecord := (h.resolve_left (by simp [Phase.idle])).2 record (List.mem_singleton_self _)
    refine Or.inr ⟨.confirming, fun v hv => ?_⟩
    rw [List.mem_singleton.mp hv, ← hrecord]
    exact congrArg Bond.lockId hconfirmed.bond
  | abandoning => exact Or.inr ⟨.abandoning, fun v hv => by cases hv⟩
  | @writing confirmed signature quoteDigest hsigning =>
    rw [hsigning] at h
    exact Or.inr ⟨.writing, (h.resolve_left (by simp [Phase.idle])).2⟩

theorem turn_tracked {versions : Bond → Prop} {front back : List (Text × Claim)}
    (h : Tracked versions (front ++ f.claim.toList ++ back)) (hsound : f.Sound)
    (hread : ∀ u ∈ f.phase.versions ++ locks.entries, versions u.bond)
    (hturn : Turn locks f.phase f'.phase) (hid : f'.lockId = f.lockId ∨ f'.phase.idle = true) :
    Tracked (fun b => versions b ∨ b ∈ f'.phase.versions.map StoredLock.bond)
      (front ++ f'.claim.toList ++ back) := by
  unfold Flow.Sound at hsound
  generalize hq : f'.phase = q at hturn
  cases hturn with
  | same =>
    rw [Flow.claim_eq hq hid]
    refine h.mono (fun b hb => hb.elim (fun hb => hb) fun hb => ?_) (List.Sublist.refl _)
    obtain ⟨v, hv, rfl⟩ := List.mem_map.mp hb
    exact hread v (List.mem_append_left _ hv)
  | continues hcontinues =>
    have hidle : f'.phase.idle = true := by rw [hq]; exact hcontinues.1
    rw [Flow.claim_of_idle hidle]
    have hdropped : Tracked versions (front ++ [] ++ back) := by
      refine h.mono (fun _ hb => hb) ?_
      exact ((List.nil_sublist _).append_left front).append_right back
    refine hdropped.laters _ fun c hc => ?_
    obtain ⟨v, hv, rfl⟩ := List.mem_map.mp hc
    obtain ⟨u, hu, hlater⟩ := hcontinues.2 v hv
    exact ⟨u.bond, hread u hu, hlater⟩
  | @confirming record confirmed hlocking hconfirmed =>
    have hsame : f'.lockId = f.lockId := hid.resolve_right (by rw [hq]; simp [Phase.idle, LockTx.quotes])
    rw [hlocking] at hsound
    have hrecord : record.bond.lockId = f.lockId := hsound.1.id
    have hbefore : f.claim.toList = [(record.bond.lockId, Claim.pending)] := by
      rw [Flow.claim, hlocking, hrecord]
      rfl
    have hafter : f'.claim.toList = [(record.bond.lockId,
        Claim.confirmed confirmed.ticket confirmed.lockTxHash)] := by
      rw [Flow.claim, hq, hsame, hrecord]
      rfl
    rw [hbefore, List.append_assoc, List.singleton_append] at h
    rw [hafter, List.append_assoc, List.singleton_append]
    refine (h.confirm (hread record ?_) hconfirmed.valid).mono (fun b hb => ?_)
      (List.Sublist.refl _)
    · rw [hlocking]
      exact List.mem_append_left _ (List.mem_singleton_self record)
    · refine hb.imp_right fun hb => ?_
      rw [List.mem_singleton.mp hb]
      exact hconfirmed.bond
  | @abandoning record why hlocking =>
    have hsame : f'.lockId = f.lockId := hid.resolve_right (by rw [hq]; simp [Phase.idle, LockTx.quotes])
    have hbefore : f.claim.toList = [(f.lockId, Claim.pending)] := by
      rw [Flow.claim, hlocking]
      rfl
    have hafter : f'.claim.toList = [(f.lockId, Claim.abandoned)] := by
      rw [Flow.claim, hq, hsame]
      rfl
    rw [hbefore, List.append_assoc, List.singleton_append] at h
    rw [hafter, List.append_assoc, List.singleton_append]
    have hnext : Tracked versions (front ++ (f.lockId, Claim.abandoned) :: back) :=
      h.reclaim trivial fun _ _ _ _ => trivial
    exact hnext.mono (fun b hb => hb.elim (fun hb => hb) fun hb => by cases hb)
      (List.Sublist.refl _)
  | @writing confirmed signature quoteDigest hsigning =>
    have hsame : f'.lockId = f.lockId := hid.resolve_right (by rw [hq]; simp [Phase.idle, LockTx.quotes])
    have hclaim : f'.claim = f.claim := by
      rw [Flow.claim, Flow.claim, hq, hsigning, hsame]
      rfl
    rw [hclaim]
    refine h.mono (fun b hb => hb.elim (fun hb => hb) fun hb => ?_) (List.Sublist.refl _)
    obtain ⟨v, hv, rfl⟩ := List.mem_map.mp hb
    refine hread v (List.mem_append_left _ ?_)
    rw [hsigning]
    exact hv

theorem turn_drawn (hread : ∀ u ∈ f.phase.versions ++ locks.entries, u.lockId ∈ ids)
    (hturn : Turn locks f.phase f'.phase) : ∀ v ∈ f'.phase.versions, v.lockId ∈ ids := by
  generalize f'.phase = q at hturn
  intro v hv
  cases hturn with
  | same => exact hread v (List.mem_append_left _ hv)
  | continues hcontinues =>
    obtain ⟨u, hu, hlater⟩ := hcontinues.2 v hv
    rw [hlater.same_lock]
    exact hread u hu
  | @confirming record confirmed hlocking hconfirmed =>
    rw [List.mem_singleton.mp hv]
    have hsame : confirmed.lockId = record.lockId := congrArg Bond.lockId hconfirmed.bond
    rw [hsame]
    refine hread record (List.mem_append_left _ ?_)
    rw [hlocking]
    exact List.mem_singleton_self record
  | abandoning => cases hv
  | @writing confirmed signature quoteDigest hsigning =>
    refine hread v (List.mem_append_left _ ?_)
    rw [hsigning]
    exact hv

theorem turn_claim (hturn : Turn locks f.phase f'.phase)
    (hid : f'.lockId = f.lockId ∨ f'.phase.idle = true) {p : Text × Claim}
    (hp : p ∈ f'.claim.toList) : ∃ q ∈ f.claim.toList, q.1 = p.1 := by
  have hidle : f'.phase.idle = true → p ∉ f'.claim.toList := fun h => by
    rw [Flow.claim_of_idle h]
    exact List.not_mem_nil
  have hsame : f'.lockId = f.lockId := hid.resolve_right fun h => hidle h hp
  generalize hq : f'.phase = q at hturn hidle
  have hpid : p.1 = f.lockId := by
    rw [Flow.claim, hsame] at hp
    obtain ⟨claim, -, hclaim⟩ := Option.map_eq_some_iff.mp (Option.mem_toList.mp hp)
    rw [← hclaim]
  cases hturn with
  | same =>
    rw [Flow.claim_eq hq (Or.inl hsame)] at hp
    exact ⟨p, hp, rfl⟩
  | continues h => exact absurd hp (hidle h.1)
  | confirming hlocking | abandoning hlocking =>
    refine ⟨(f.lockId, .pending), ?_, hpid.symm⟩
    rw [Flow.claim, hlocking]
    exact List.mem_singleton_self _
  | @writing confirmed signature quoteDigest hsigning =>
    refine ⟨(f.lockId, .confirmed confirmed.ticket confirmed.lockTxHash), ?_, hpid.symm⟩
    rw [Flow.claim, hsigning]
    exact List.mem_singleton_self _

theorem Quoted.turn (h : Quoted ids returned w) (hf : w.flows[i]? = some f) (hsound : f.Sound)
    (hturn : Turn w.journal.memory.locks f.phase f'.phase)
    (hid : f'.lockId = f.lockId ∨ f'.phase.idle = true) (hjournal : w'.journal = w.journal)
    (hflows : w'.flows = w.flows.set i f') : Quoted ids returned w' := by
  obtain ⟨front, back, hbefore, hafter⟩ := claims_set hf
  have hclaims : w'.claims = front ++ f'.claim.toList ++ back := by
    rw [Node.claims, hflows]
    exact hafter f'
  have hhas : ∀ b, w'.Has b → w.Has b ∨ b ∈ f'.phase.versions.map StoredLock.bond := by
    rintro b (hb | hb | ⟨g, hg, v, hv, rfl⟩)
    · rw [hjournal] at hb
      exact Or.inl (Or.inl hb)
    · rw [hjournal] at hb
      exact Or.inl (Or.inr (Or.inl hb))
    · rw [hflows] at hg
      rcases List.mem_or_eq_of_mem_set hg with hg | rfl
      · exact Or.inl (Or.inr (Or.inr ⟨g, hg, v, hv, rfl⟩))
      · exact Or.inr (List.mem_map_of_mem hv)
  have hread : ∀ u ∈ f.phase.versions ++ w.journal.memory.locks.entries, w.Has u.bond := by
    intro u hu
    rcases List.mem_append.mp hu with hu | hu
    · exact .flow hf hu
    · exact .memory hu
  have htracked := h.tracked
  rw [Node.claims, hbefore] at htracked
  have hnext := turn_tracked htracked hsound (fun u hu => Or.inl (hread u hu)) hturn hid
  refine ⟨?_, ?_, ?_, ?_, ?_, ?_⟩
  · rw [hclaims]
    refine hnext.mono (fun b hb => ?_) (List.Sublist.refl _)
    rcases hb with hb | hb
    · exact (hhas b hb).imp_left Or.inl
    · exact Or.inl (Or.inr hb)
  · intro g hg
    rw [hflows] at hg
    rcases List.mem_or_eq_of_mem_set hg with hg | rfl
    · exact h.regular g hg
    · exact turn_regular hturn (h.regular f (List.mem_of_getElem? hf)) hid
  · intro b hb
    rcases hhas b hb with hb | hb
    · exact h.drawn b hb
    · obtain ⟨v, hv, rfl⟩ := List.mem_map.mp hb
      exact turn_drawn (fun u hu => h.drawn u.bond (hread u hu)) hturn v hv
  · intro p hp
    have hold : ∀ q ∈ front ++ f.claim.toList ++ back, q.1 ∈ ids := fun q hq => by
      rw [← hbefore] at hq
      exact h.claims q hq
    rw [hclaims] at hp
    rcases List.mem_append.mp hp with hp | hp
    · rcases List.mem_append.mp hp with hp | hp
      · exact hold p (List.mem_append_left _ (List.mem_append_left _ hp))
      · obtain ⟨q, hq, hqp⟩ := turn_claim hturn hid hp
        rw [← hqp]
        exact hold q (List.mem_append_left _ (List.mem_append_right _ hq))
    · exact hold p (List.mem_append_right _ hp)
  · rw [hjournal]
    exact h.kept
  · rw [hjournal]
    exact h.digests

/-! ## Transactions of an operation -/

/-- A transaction of an operation: the store is left and the caller is told of an error, or the
write is in the journal, and in memory as well if its caller is told what it has written. -/
inductive Committed (j j' : Journal Books) (lockId : Text) (edit : Except MakerError LockWrite) :
    Except (Option MakerError) (Option StoredLock) → Prop
  | left {result : Except (Option MakerError) (Option StoredLock)} (left : Left j j')
      (h : ∀ a, result ≠ .ok a) : Committed j j' lockId edit result
  | wrote {write : LockWrite} (h : edit = .ok write)
      (wrote : Wrote j j' (write.apply lockId j.memory.locks)) (opened : j'.failed = false) :
      Committed j j' lockId edit (.ok write.result)
  | uncertain {write : LockWrite} {e : Option MakerError} (h : edit = .ok write)
      (wrote : Wrote j j' (write.apply lockId j.memory.locks)) :
      Committed j j' lockId edit (.error e)

theorem committed_draft (h : SoundNode w) (hsound : tx.Sound lockId) :
    Committed w.journal (lockTransaction (tx.draft lockId now) append w.journal).2 lockId
      (tx.edit lockId now (w.journal.memory.locks.get? lockId))
      (lockTransaction (tx.draft lockId now) append w.journal).1 := by
  have hsounds : ∀ a t, Returns (tx.draft lockId now) w.journal.memory a t → SoundLocks t.locks := by
    intro a t hreturns
    obtain ⟨write, hedit, -, rfl⟩ := returns_draft.mp hreturns
    exact SoundLocks.apply h.store.locks.memory hsound hedit
  rcases lockTransaction_wrote append h.store hsounds with
    ⟨hleft, hresult⟩ | ⟨a, t, hreturns, hwrote, hresult⟩
  · exact .left hleft hresult
  · obtain ⟨write, hedit, rfl, rfl⟩ := returns_draft.mp hreturns
    rcases hresult with ⟨hok, hopened⟩ | ⟨e, herror⟩
    · rw [hok]
      exact .wrote hedit hwrote hopened
    · rw [herror]
      exact .uncertain hedit hwrote

theorem mem_apply (h : r ∈ (write.apply lockId locks).entries) :
    r ∈ locks.entries ∨ write.written = some r := by
  cases write with
  | keep => exact Or.inl h
  | remove => exact Or.inl (Table.mem_erase.mp h).1
  | put c | refuse c =>
    rcases Table.mem_put.mp h with rfl | ⟨hr, -⟩
    · exact Or.inr rfl
    · exact Or.inl hr

/-- The table keeps what a write replaces by a version for the same RFQ. -/
theorem Kept.apply (h : Kept returned locks) (hwritten : ∀ c, write.written = some c →
      ∃ r ∈ locks.entries, r.lockId = c.lockId ∧ r.rfqDigest = c.rfqDigest)
    (hremove : write = .remove → ∀ b ∈ returned, b.lockId ≠ lockId) :
    Kept returned (write.apply lockId locks) := by
  intro b hb
  obtain ⟨hsigned, r, hr, hid, hdigest⟩ := h b hb
  refine ⟨hsigned, ?_⟩
  have hput : ∀ c, write.written = some c → ∃ r' ∈ (locks.put c).entries,
      r'.lockId = b.lockId ∧ r'.rfqDigest = b.terms.rfqDigest := by
    intro c hc
    by_cases hsame : r.lockId = c.lockId
    · obtain ⟨old, hold, holdid, holddigest⟩ := hwritten c hc
      have hfound := Table.get?_mem hold
      rw [show old.lockId = r.lockId from holdid.trans hsame.symm, Table.get?_mem hr] at hfound
      cases hfound
      exact ⟨c, Table.mem_put.mpr (Or.inl rfl), hsame.symm.trans hid, holddigest.symm.trans hdigest⟩
    · exact ⟨r, Table.mem_put.mpr (Or.inr ⟨hr, hsame⟩), hid, hdigest⟩
  cases write with
  | keep => exact ⟨r, hr, hid, hdigest⟩
  | remove =>
    refine ⟨r, Table.mem_erase.mpr ⟨hr, ?_⟩, hid, hdigest⟩
    show r.lockId ≠ lockId
    rw [hid]
    exact hremove rfl b hb
  | put c | refuse c => exact hput c rfl

theorem DistinctDigests.apply (h : DistinctDigests locks) (hwritten : ∀ c, write.written = some c →
      ∃ r ∈ locks.entries, r.lockId = c.lockId ∧ r.rfqDigest = c.rfqDigest) :
    DistinctDigests (write.apply lockId locks) := by
  have hbefore : ∀ r ∈ (write.apply lockId locks).entries,
      ∃ old ∈ locks.entries, old.lockId = r.lockId ∧ old.rfqDigest = r.rfqDigest := by
    intro r hr
    rcases mem_apply hr with hr | hr
    · exact ⟨r, hr, rfl, rfl⟩
    · exact hwritten r hr
  intro r hr r' hr' hsame
  obtain ⟨old, hold, hid, hdigest⟩ := hbefore r hr
  obtain ⟨old', hold', hid', hdigest'⟩ := hbefore r' hr'
  rw [← hid, ← hid']
  exact h old hold old' hold' (hdigest.trans (hsame.trans hdigest'.symm))

theorem Committed.tables (h : Committed j j' lockId edit result) {P : Locks → Prop}
    (hbefore : j.Holds fun s => P s.locks)
    (hwrite : ∀ write, edit = .ok write → P (write.apply lockId j.memory.locks)) :
    j'.Holds fun s => P s.locks := by
  have hwrote : ∀ write, edit = .ok write → Wrote j j' (write.apply lockId j.memory.locks) →
      j'.Holds fun s => P s.locks := by
    intro write hedit hwrote
    have hnew := hwrite write hedit
    refine ⟨?_, ?_⟩
    · rcases hwrote.memory with ⟨-, hmemory⟩ | ⟨-, hmemory⟩ <;> rw [hmemory]
      · exact hnew
      · exact hbefore.memory
    · rw [hwrote.durable]
      exact hnew
  cases h with
  | left hleft =>
    refine ⟨?_, ?_⟩
    · rw [hleft.memory]
      exact hbefore.memory
    · rw [hleft.durable]
      exact hbefore.durable
  | wrote hedit h | uncertain hedit h => exact hwrote _ hedit h

/-- What a transaction writes is a version of what it finds. -/
theorem edit_written {c : StoredLock} (h : SoundLocks locks) (hsound : tx.Sound lockId)
    (hedit : tx.edit lockId now (locks.get? lockId) = .ok write) (hc : write.written = some c) :
    ∃ r ∈ locks.entries, r.lockId = lockId ∧ c.lockId = lockId ∧ tx.Binds r.bond c.bond := by
  cases hr : locks.get? lockId with
  | none =>
    rw [hr] at hedit
    rw [edit_none hedit] at hc
    cases hc
  | some r =>
    rw [hr] at hedit
    obtain ⟨hmem, hid⟩ := Table.get?_eq_some.mp hr
    obtain ⟨hversion, hlock⟩ := h.get? hr
    refine ⟨r, hmem, hid, ?_, edit_bond hversion hedit hc⟩
    rcases edit_version hsound hversion hlock.untouched hedit with
      rfl | ⟨rfl, -⟩ | ⟨c', hc', hnext, -⟩
    · cases hc
    · cases hc
    · cases hc.symm.trans hc'
      exact hnext.id

theorem edit_remove (h : SoundLocks locks) (hsound : tx.Sound lockId)
    (hedit : tx.edit lockId now (locks.get? lockId) = .ok .remove) : tx = .abandon .reverted := by
  cases hr : locks.get? lockId with
  | none =>
    rw [hr] at hedit
    cases edit_none hedit
  | some r =>
    rw [hr] at hedit
    obtain ⟨hversion, hlock⟩ := h.get? hr
    rcases edit_version hsound hversion hlock.untouched hedit with
      hkeep | ⟨-, htx⟩ | ⟨c, hc, -⟩
    · cases hkeep
    · exact htx
    · cases hc

/-- The fields that were fixed when the lock was made stay. -/
theorem Tracked.bound_terms {versions : Bond → Prop} {claims : List (Text × Claim)}
    (h : Tracked versions claims) (htx : ∀ v ∈ tx.versions, versions v.bond) {before after : Bond}
    (hbefore : versions before) (hid : before.lockId = after.lockId)
    (hbinds : tx.Binds before after) : before.terms = after.terms := by
  cases tx with
  | confirm confirmed =>
    cases hbinds
    exact h.terms _ _ hbefore (htx confirmed (List.mem_singleton_self _)) hid
  | refresh read exact =>
    cases hbinds
    exact h.terms _ _ hbefore (htx exact (List.mem_singleton_self _)) hid
  | sign confirmed signature quoteDigest =>
    obtain ⟨-, rfl⟩ := hbinds
    rfl
  | abandon why =>
    obtain ⟨hash, rfl⟩ := hbinds
    rfl
  | convert | failure | quarantine | submit | persist | resolve | terminal =>
    cases hbinds
    rfl

/-- A transaction of an operation: what comes of it, and the node after it. -/
structure Commits (w w' : Node) (i : Nat) (f : Flow) (tx : LockTx) (after : After)
    (result : Except (Option MakerError) (Option StoredLock)) : Prop where
  flow : w.flows[i]? = some f
  phase : f.phase = .commit tx after
  journal : Committed w.journal w'.journal f.lockId
    (tx.edit f.lockId f.now (w.journal.memory.locks.get? f.lockId)) result
  flows : w'.flows = w.flows.set i (f.committed after result)

/-- The transaction of an operation writes this version. -/
def Flow.Writes (f : Flow) (w : Node) (tx : LockTx) (c : StoredLock) : Prop :=
  ∃ write, tx.edit f.lockId f.now (w.journal.memory.locks.get? f.lockId) = .ok write ∧
    write.written = some c

theorem Commits.sound (k : Commits w w' i f tx after result) (hs : SoundNode w) :
    tx.Sound f.lockId := by
  have hsound := hs.flow k.flow
  unfold Flow.Sound at hsound
  rw [k.phase] at hsound
  exact hsound.1

theorem Commits.version (k : Commits w w' i f tx after result) {v : StoredLock}
    (hv : v ∈ tx.versions) : w.Has v.bond := .flow k.flow (by rw [k.phase]; exact hv)

theorem Commits.written (k : Commits w w' i f tx after result) (hs : SoundNode w)
    {c : StoredLock} (hc : f.Writes w tx c) : ∃ r ∈ w.journal.memory.locks.entries,
      r.lockId = f.lockId ∧ c.lockId = f.lockId ∧ tx.Binds r.bond c.bond := by
  obtain ⟨write, hedit, hc⟩ := hc
  exact edit_written hs.store.locks.memory (k.sound hs) hedit hc

theorem Commits.claimed {c : Claim} (k : Commits w w' i f tx after result)
    (hc : f.phase.claim = some c) : (f.lockId, c) ∈ w.claims := by
  refine List.mem_filterMap.mpr ⟨f, List.mem_of_getElem? k.flow, ?_⟩
  rw [Flow.claim, hc]
  rfl

theorem Quoted.tables (h : Quoted ids returned w) (hs : SoundNode w)
    (k : Commits w w' i f tx after result) : (w'.journal.Holds fun s => Kept returned s.locks) ∧
      w'.journal.Holds fun s => DistinctDigests s.locks := by
  have hwritten : ∀ c, f.Writes w tx c → ∃ r ∈ w.journal.memory.locks.entries,
      r.lockId = c.lockId ∧ r.rfqDigest = c.rfqDigest := by
    intro c hc
    obtain ⟨r, hr, hid, hcid, hbinds⟩ := k.written hs hc
    have hterms := h.tracked.bound_terms (fun v hv => Or.inl (k.version hv)) (Or.inl (.memory hr))
      (hid.trans hcid.symm) hbinds
    exact ⟨r, hr, hid.trans hcid.symm, congrArg QuoteTerms.rfqDigest hterms⟩
  refine ⟨k.journal.tables h.kept fun write hedit => ?_,
    k.journal.tables h.digests fun write hedit => ?_⟩
  · refine Kept.apply h.kept.memory (fun c hc => hwritten c ⟨write, hedit, hc⟩) ?_
    rintro rfl b hb hid
    have htx := edit_remove hs.store.locks.memory (k.sound hs) hedit
    have hclaim : (f.lockId, Claim.abandoned) ∈ w.claims := k.claimed (by rw [k.phase, htx]; rfl)
    have hunsigned := (h.tracked.claimed _ hclaim b (Or.inr hb) hid).1
    have hsigned := (h.kept.memory b hb).1
    rw [hunsigned] at hsigned
    cases hsigned
  · exact DistinctDigests.apply h.digests.memory fun c hc => hwritten c ⟨write, hedit, hc⟩

/-- The record and signature of the quote that is returned after a transaction. -/
def LockTx.quoted (tx : LockTx) (result : Except (Option MakerError) (Option StoredLock)) :
    Option (StoredLock × Text) :=
  match tx, result with
  | .sign confirmed signature _, .ok _ => some (confirmed, signature)
  | _, _ => none

/-- A record with the signature that it is returned with. -/
def signedBond (p : StoredLock × Text) : Bond := { p.1.bond with signature := some p.2 }

variable {confirmed : StoredLock}

theorem edit_sign {signature : Text} {quoteDigest : Digest}
    (h : (LockTx.sign confirmed signature quoteDigest).edit lockId now (locks.get? lockId) =
      .ok write) :
    ∃ r ∈ locks.entries, r.lockId = lockId ∧ r.lockTxHash = confirmed.lockTxHash ∧
      write = .put { r with signature := some signature, quoteDigest := some quoteDigest.text } := by
  cases hr : locks.get? lockId with
  | none =>
    rw [hr] at h
    cases h
  | some r =>
    rw [hr] at h
    obtain ⟨hmem, hid⟩ := Table.get?_eq_some.mp hr
    unfold LockTx.edit at h
    dsimp only at h
    split at h
    · cases h
    · rename_i hsame
      rw [not_or, not_not] at hsame
      cases h
      exact ⟨r, hmem, hid, hsame.2, rfl⟩

/-- The caller of a transaction gets a version that is in memory then. -/
theorem Committed.result_mem (h : Committed j j' lockId edit result) (hr : result = .ok (some r)) :
    r ∈ j'.memory.locks.entries := by
  cases h with
  | left _ h => exact absurd hr (h _)
  | @wrote write hedit hwrote hopened =>
    have hmemory : j'.memory.locks = write.apply lockId j.memory.locks := by
      rcases hwrote.memory with ⟨-, hmemory⟩ | ⟨hfailed, -⟩
      · exact hmemory
      · rw [hopened] at hfailed
        cases hfailed
    rw [hmemory]
    cases write with
    | put c =>
      cases hr
      exact Table.mem_put.mpr (Or.inl rfl)
    | keep | remove | refuse => cases hr
  | uncertain => cases hr

/-- A transaction that succeeds has written its tables. -/
theorem Committed.ok_tables {a : Option StoredLock} (h : Committed j j' lockId edit (.ok a)) :
    ∃ write, edit = .ok write ∧ j'.Holds fun s => s.locks = write.apply lockId j.memory.locks := by
  cases h with
  | left _ h => exact absurd rfl (h a)
  | @wrote write hedit hwrote hopened =>
    refine ⟨write, hedit, ?_, hwrote.durable⟩
    rcases hwrote.memory with ⟨-, hmemory⟩ | ⟨hfailed, -⟩
    · exact hmemory
    · rw [hopened] at hfailed
      cases hfailed

section

variable {V : Bond → Prop} (k : Commits w w' i f tx after result) (hV : ∀ b, w.Has b → V b)
  (hwrite : ∀ c, f.Writes w tx c → V c.bond)

include k hV hwrite

theorem Commits.entries : w'.journal.Holds fun s => ∀ r ∈ s.locks.entries, V r.bond := by
  refine k.journal.tables (P := fun locks => ∀ r ∈ locks.entries, V r.bond)
    ⟨fun r hr => hV _ (.memory hr), fun r hr => hV _ (Or.inr (Or.inl ⟨r, hr, rfl⟩))⟩ ?_
  intro write hedit r hr
  rcases mem_apply hr with hr | hr
  · exact hV _ (.memory hr)
  · exact hwrite r ⟨write, hedit, hr⟩

/-- The versions after a transaction of an operation. -/
theorem Commits.has (hnext : ∀ v ∈ (f.committed after result).phase.versions, V v.bond) :
    ∀ b, w'.Has b → V b := by
  have hentries := k.entries hV hwrite
  rintro b (⟨r, hr, rfl⟩ | ⟨r, hr, rfl⟩ | ⟨g, hg, v, hv, rfl⟩)
  · exact hentries.memory r hr
  · exact hentries.durable r hr
  · rw [k.flows] at hg
    rcases List.mem_or_eq_of_mem_set hg with hg | rfl
    · exact hV _ (Or.inr (Or.inr ⟨g, hg, v, hv, rfl⟩))
    · exact hnext v hv

end

theorem Commits.claims (k : Commits w w' i f tx after result) : ∃ front back,
    w.claims = front ++ f.claim.toList ++ back ∧
      w'.claims = front ++ (f.committed after result).claim.toList ++ back := by
  obtain ⟨front, back, hbefore, hafter⟩ := claims_set k.flow
  refine ⟨front, back, hbefore, ?_⟩
  rw [Node.claims, k.flows]
  exact hafter _

theorem quoted_of_ne_sign
    (h : ∀ confirmed signature quoteDigest, tx ≠ .sign confirmed signature quoteDigest) :
    tx.quoted result = none := by
  cases tx with
  | sign confirmed signature quoteDigest => exact absurd rfl (h confirmed signature quoteDigest)
  | _ => rfl

theorem Quoted.idle_tracked (h : Quoted ids returned w) (hs : SoundNode w)
    (k : Commits w w' i f tx after result) (hidle : f.phase.idle = true) :
    tx.quoted result = none ∧ Tracked (fun b => w'.Has b ∨ b ∈ returned) w'.claims := by
  obtain ⟨front, back, hbefore, hafter⟩ := k.claims
  have htracked := h.tracked
  rw [hbefore] at htracked
  have hcontinues := continues_committed k.phase hidle fun r hr => k.journal.result_mem hr
  rw [k.phase] at hidle
  have hkept : ∀ c, f.Writes w tx c → w.Has c.bond := by
    intro c hc
    obtain ⟨r, hr, -, -, hbinds⟩ := k.written hs hc
    cases tx with
    | confirm | abandon | sign => simp [Phase.idle, LockTx.quotes] at hidle
    | refresh read exact =>
      rw [show c.bond = exact.bond from hbinds]
      exact k.version (List.mem_singleton_self _)
    | _ =>
      rw [show c.bond = r.bond from hbinds]
      exact .memory hr
  refine ⟨quoted_of_ne_sign fun confirmed signature quoteDigest htx => ?_, ?_⟩
  · rw [htx] at hidle
    simp [Phase.idle, LockTx.quotes] at hidle
  have hentries := k.entries (V := w.Has) (fun _ hb => hb) hkept
  rw [hafter, Flow.claim_of_idle hcontinues.1]
  have hlaters := (htracked.mono (fun _ hb => hb)
    (((List.nil_sublist _).append_left front).append_right back)).laters
    ((f.committed after result).phase.versions.map StoredLock.bond) fun c hc => by
      obtain ⟨v, hv, rfl⟩ := List.mem_map.mp hc
      obtain ⟨u, hu, hlater⟩ := hcontinues.2 v hv
      exact ⟨u.bond, Or.inl (hentries.memory u hu), hlater⟩
  refine hlaters.mono (fun b hb => ?_) (List.Sublist.refl _)
  rcases hb with hb | hb
  · exact k.has (V := fun b => (w.Has b ∨ b ∈ returned) ∨
      b ∈ (f.committed after result).phase.versions.map StoredLock.bond)
      (fun b hb => Or.inl (Or.inl hb)) (fun c hc => Or.inl (Or.inl (hkept c hc)))
      (fun v hv => Or.inr (List.mem_map_of_mem hv)) b hb
  · exact Or.inl (Or.inr hb)

theorem Quoted.confirming_tracked (h : Quoted ids returned w) (hs : SoundNode w)
    (k : Commits w w' i f (.confirm confirmed) (.confirmed confirmed) result) :
    Tracked (fun b => w'.Has b ∨ b ∈ returned) w'.claims := by
  obtain ⟨front, back, hbefore, hafter⟩ := k.claims
  have hconfirmed : w.Has confirmed.bond := k.version (List.mem_singleton_self _)
  have hall : ∀ b, w'.Has b → w.Has b := by
    refine k.has (fun b hb => hb) (fun c hc => ?_) fun v hv => ?_
    · obtain ⟨r, -, -, -, hbinds⟩ := k.written hs hc
      rw [show c.bond = confirmed.bond from hbinds]
      exact hconfirmed
    · cases result with
      | ok a =>
        rw [List.mem_singleton.mp hv]
        exact hconfirmed
      | error e => cases hv
  have hclaim : f.claim =
      some (f.lockId, Claim.confirmed confirmed.ticket confirmed.lockTxHash) := by
    rw [Flow.claim, k.phase]
    rfl
  have htracked := h.tracked
  rw [hbefore, hclaim, Option.toList_some, ← List.append_cons] at htracked
  rw [hafter]
  cases result with
  | ok a =>
    change Tracked _ (front ++ [(f.lockId, _)] ++ back)
    rw [← List.append_cons]
    exact htracked.mono (fun b hb => hb.imp_left (hall b)) (List.Sublist.refl _)
  | error e =>
    change Tracked _ (front ++ [(f.lockId, Claim.abandoned)] ++ back)
    rw [← List.append_cons]
    have habandoned : Tracked (fun b => w.Has b ∨ b ∈ returned)
        (front ++ (f.lockId, Claim.abandoned) :: back) :=
      htracked.reclaim trivial fun _ _ _ _ => trivial
    exact habandoned.mono (fun b hb => hb.imp_left (hall b)) (List.Sublist.refl _)

/-- The last transaction of an operation, which then claims nothing and has no version. -/
theorem Quoted.closing {c : Claim} (h : Quoted ids returned w)
    (k : Commits w w' i f tx .finish result) (hclaim : f.phase.claim = some c) : ∃ front back,
      w'.claims = front ++ back ∧
      Tracked (fun b => w.Has b ∨ b ∈ returned) (front ++ (f.lockId, c) :: back) ∧
      (∀ {V : Bond → Prop}, (∀ b, w.Has b → V b) → (∀ c, f.Writes w tx c → V c.bond) →
        ∀ b, w'.Has b → V b) := by
  obtain ⟨front, back, hbefore, hafter⟩ := k.claims
  have htracked := h.tracked
  rw [hbefore, Flow.claim, hclaim, Option.map_some, Option.toList_some, ← List.append_cons]
    at htracked
  refine ⟨front, back, ?_, htracked, fun hV hwrite => k.has hV hwrite fun v hv => ?_⟩
  · rw [hafter]
    cases result <;> exact congrArg (· ++ back) (List.append_nil front)
  · cases result <;> cases hv

theorem Quoted.abandoning_tracked {why : LockFailure} (h : Quoted ids returned w)
    (hs : SoundNode w) (k : Commits w w' i f (.abandon why) .finish result) :
    Tracked (fun b => w'.Has b ∨ b ∈ returned) w'.claims := by
  obtain ⟨front, back, hclaims, htracked, hhas⟩ :=
    h.closing k (c := .abandoned) (by rw [k.phase]; rfl)
  rw [hclaims]
  by_cases hput : ∃ c, f.Writes w (.abandon why) c
  · obtain ⟨c, hc⟩ := hput
    obtain ⟨r, hr, hid, -, hash, hbond⟩ := k.written hs hc
    have hrid : r.bond.lockId = f.lockId := hid
    rw [← hrid] at htracked
    refine (htracked.abandon hash (Or.inl (.memory hr))).mono (fun b hb => ?_) (List.Sublist.refl _)
    rcases hb with hb | hb
    · refine hhas (V := adding (fun b => w.Has b ∨ b ∈ returned)
        { r.bond with lockTxHash := hash }) (fun b hb => Or.inl (Or.inl hb)) (fun c' hc' => ?_) b hb
      obtain ⟨⟨write, hedit, hw⟩, write', hedit', hw'⟩ := And.intro hc hc'
      cases hedit.symm.trans hedit'
      cases hw.symm.trans hw'
      exact Or.inr hbond
    · exact Or.inl (Or.inr hb)
  · refine htracked.drop.mono (fun b hb => hb.imp_left ?_) (List.Sublist.refl _)
    exact hhas (fun b hb => hb) (fun c hc => absurd ⟨c, hc⟩ hput) b

theorem Quoted.writing_tracked {signature : Text} {quoteDigest : Digest} (h : Quoted ids returned w)
    (k : Commits w w' i f (.sign confirmed signature quoteDigest) .finish result)
    (hnamed : confirmed.lockId = f.lockId) :
    Tracked (fun b => w'.Has b ∨ b ∈ returned ++ (((LockTx.sign confirmed signature
      quoteDigest).quoted result).map signedBond).toList) w'.claims := by
  obtain ⟨front, back, hclaims, htracked, hhas⟩ := h.closing k
    (c := .confirmed confirmed.ticket confirmed.lockTxHash) (by rw [k.phase]; rfl)
  rw [hclaims]
  by_cases hput : ∃ write, LockTx.edit f.lockId f.now (w.journal.memory.locks.get? f.lockId)
      (.sign confirmed signature quoteDigest) = .ok write
  · obtain ⟨write, hedit⟩ := hput
    obtain ⟨r, hr, hid, hhash, rfl⟩ := edit_sign hedit
    have hrid : r.bond.lockId = f.lockId := hid
    have hclaim : (f.lockId, Claim.confirmed confirmed.ticket confirmed.lockTxHash) ∈
        front ++ (f.lockId, Claim.confirmed confirmed.ticket confirmed.lockTxHash) :: back :=
      List.mem_append_right _ List.mem_cons_self
    -- the version that is signed is the one that was confirmed
    have hsame : r.bond = confirmed.bond := by
      have hconfirmed : w.Has confirmed.bond := k.version (List.mem_singleton_self _)
      have hterms := htracked.terms _ _ (Or.inl (.memory hr)) (Or.inl hconfirmed)
        (hrid.trans hnamed.symm)
      obtain ⟨hunsigned, hallows⟩ := htracked.claimed _ hclaim _ (Or.inl (.memory hr)) hrid
      have hcunsigned := (htracked.claimed _ hclaim _ (Or.inl hconfirmed) hnamed).1
      have hticket : r.bond.ticket = confirmed.bond.ticket := by
        rcases hallows with hzero | ⟨-, hticket⟩
        · exact absurd (hhash.symm.trans hzero) (htracked.valid _ hclaim).2
        · exact hticket
      exact Bond.ext (hrid.trans hnamed.symm) hterms hticket hhash (hunsigned.trans hcunsigned.symm)
    rw [← hrid] at htracked
    refine (htracked.sign signature (Or.inl (.memory hr)) hhash).mono
      (fun b hb => ?_) (List.Sublist.refl _)
    rcases hb with hb | hb
    · refine hhas (V := adding (fun b => w.Has b ∨ b ∈ returned)
        { r.bond with signature := some signature }) (fun b hb => Or.inl (Or.inl hb)) ?_ b hb
      rintro c ⟨write', hedit', hc'⟩
      cases hedit.symm.trans hedit'
      cases hc'
      exact Or.inr rfl
    · rcases List.mem_append.mp hb with hb | hb
      · exact Or.inl (Or.inr hb)
      · cases result with
        | error e => cases hb
        | ok a =>
          right
          rw [List.mem_singleton.mp hb, signedBond, hsame]
  · refine htracked.drop.mono (fun b hb => ?_) (List.Sublist.refl _)
    rcases hb with hb | hb
    · exact Or.inl (hhas (fun b hb => hb) (fun c ⟨write, hedit, _⟩ => absurd ⟨write, hedit⟩ hput)
        b hb)
    · rcases List.mem_append.mp hb with hb | hb
      · exact Or.inr hb
      · cases result with
        | error e => cases hb
        | ok a =>
          obtain ⟨write, hedit, -⟩ := k.journal.ok_tables
          exact absurd ⟨write, hedit⟩ hput

theorem committed_tracked (h : Quoted ids returned w) (hs : SoundNode w)
    (k : Commits w w' i f tx after result) :
    Tracked (fun b => w'.Has b ∨ b ∈ returned ++ ((tx.quoted result).map signedBond).toList)
      w'.claims := by
  rcases h.regular f (List.mem_of_getElem? k.flow) with hidle | ⟨hquoting, hnamed⟩
  · obtain ⟨hquoted, htracked⟩ := h.idle_tracked hs k hidle
    rw [hquoted, Option.map_none, Option.toList_none, List.append_nil]
    exact htracked
  · rw [k.phase] at hquoting hnamed
    cases hquoting with
    | confirming =>
      simp only [LockTx.quoted, Option.map_none, Option.toList_none, List.append_nil]
      exact h.confirming_tracked hs k
    | abandoning =>
      simp only [LockTx.quoted, Option.map_none, Option.toList_none, List.append_nil]
      exact h.abandoning_tracked hs k
    | @writing confirmed =>
      exact h.writing_tracked k (hnamed confirmed (List.mem_singleton_self _))

theorem committed_regular (h : f.phase.Regular f.lockId) (k : Commits w w' i f tx after result) :
    (f.committed after result).phase.Regular (f.committed after result).lockId := by
  rcases h with hidle | ⟨hquoting, hnamed⟩
  · exact Or.inl (continues_committed k.phase hidle fun r hr => k.journal.result_mem hr).1
  · rw [k.phase] at hquoting hnamed
    cases hquoting with
    | confirming =>
      cases result with
      | ok a => exact Or.inr ⟨.signing, hnamed⟩
      | error e => exact Or.inr ⟨.abandoning, fun v hv => by cases hv⟩
    | abandoning | writing => cases result <;> exact Or.inl rfl

/-- The versions of an operation after its transaction have ids that were drawn. -/
theorem committed_drawn (h : Quoted ids returned w) (hs : SoundNode w)
    (k : Commits w w' i f tx after result) : ∀ b, w'.Has b → b.lockId ∈ ids := by
  have hwritten : ∀ c, f.Writes w tx c → c.lockId ∈ ids := by
    intro c hc
    obtain ⟨r, hr, hid, hcid, -⟩ := k.written hs hc
    rw [hcid, ← hid]
    exact h.drawn r.bond (.memory hr)
  have hentries := k.entries (V := fun b => b.lockId ∈ ids) h.drawn hwritten
  refine k.has h.drawn hwritten fun v hv => ?_
  rcases h.regular f (List.mem_of_getElem? k.flow) with hidle | ⟨hquoting, -⟩
  · obtain ⟨u, hu, hlater⟩ :=
      (continues_committed k.phase hidle fun r hr => k.journal.result_mem hr).2 v hv
    rw [show v.bond.lockId = u.lockId from hlater.same_lock]
    exact hentries.memory u hu
  · rw [k.phase] at hquoting
    cases hquoting with
    | @confirming confirmed =>
      cases result with
      | ok a =>
        rw [List.mem_singleton.mp hv]
        exact h.drawn confirmed.bond (k.version (List.mem_singleton_self _))
      | error e => cases hv
    | abandoning | writing => cases result <;> cases hv

theorem Kept.add (h : Kept returned locks) {b : Bond} (hsigned : b.signature.isSome = true)
    (hr : r ∈ locks.entries) (hid : r.lockId = b.lockId)
    (hdigest : r.rfqDigest = b.terms.rfqDigest) : Kept (returned ++ [b]) locks := by
  intro b' hb'
  rcases List.mem_append.mp hb' with hb' | hb'
  · exact h b' hb'
  · rw [List.mem_singleton.mp hb']
    exact ⟨hsigned, r, hr, hid, hdigest⟩

theorem kept_committed (h : Quoted ids returned w) (k : Commits w w' i f tx after result)
    (hkept : w'.journal.Holds fun s => Kept returned s.locks) :
    w'.journal.Holds fun s => Kept (returned ++ ((tx.quoted result).map signedBond).toList) s.locks := by
  by_cases hquoted : tx.quoted result = none
  · rw [hquoted, Option.map_none, Option.toList_none, List.append_nil]
    exact hkept
  · obtain ⟨confirmed, signature, quoteDigest, a, rfl, rfl⟩ :
        ∃ confirmed signature quoteDigest a,
          tx = .sign confirmed signature quoteDigest ∧ result = .ok a := by
      cases tx with
      | sign confirmed signature quoteDigest =>
        cases result with
        | ok a => exact ⟨confirmed, signature, quoteDigest, a, rfl, rfl⟩
        | error e => exact absurd rfl hquoted
      | _ => exact absurd rfl hquoted
    obtain ⟨write, hedit, htables⟩ := k.journal.ok_tables
    obtain ⟨r, hr, hid, -, rfl⟩ := edit_sign hedit
    have hregular := h.regular f (List.mem_of_getElem? k.flow)
    rw [k.phase] at hregular
    have hnamed : confirmed.lockId = f.lockId :=
      (hregular.resolve_left (by simp [Phase.idle, LockTx.quotes])).2 confirmed
        (List.mem_singleton_self _)
    have hconfirmed : w.Has confirmed.bond := k.version (List.mem_singleton_self _)
    have hterms : r.bond.terms = confirmed.bond.terms :=
      h.tracked.terms _ _ (Or.inl (.memory hr)) (Or.inl hconfirmed) (hid.trans hnamed.symm)
    have hadd : ∀ locks : Locks, Kept returned locks →
        locks = LockWrite.apply f.lockId w.journal.memory.locks (.put
          { r with signature := some signature, quoteDigest := some quoteDigest.text }) →
        Kept (returned ++ [signedBond (confirmed, signature)]) locks := by
      rintro _ hlocks rfl
      exact hlocks.add rfl (Table.mem_put.mpr (Or.inl rfl)) (hid.trans hnamed.symm)
        (congrArg QuoteTerms.rfqDigest hterms)
    exact ⟨hadd _ hkept.memory htables.memory, hadd _ hkept.durable htables.durable⟩

theorem Quoted.committed (h : Quoted ids returned w) (hs : SoundNode w)
    (k : Commits w w' i f tx after result) :
    Quoted ids (returned ++ ((tx.quoted result).map signedBond).toList) w' := by
  obtain ⟨hkept, hdigests⟩ := h.tables hs k
  have hregular := h.regular f (List.mem_of_getElem? k.flow)
  refine ⟨committed_tracked h hs k, ?_, committed_drawn h hs k, ?_, kept_committed h k hkept,
    hdigests⟩
  · intro g hg
    rw [k.flows] at hg
    rcases List.mem_or_eq_of_mem_set hg with hg | rfl
    · exact h.regular g hg
    · exact committed_regular hregular k
  · obtain ⟨front, back, hbefore, hafter⟩ := k.claims
    have hold : ∀ q ∈ front ++ f.claim.toList ++ back, q.1 ∈ ids := fun q hq => by
      rw [← hbefore] at hq
      exact h.claims q hq
    intro p hp
    rw [hafter] at hp
    rcases List.mem_append.mp hp with hp | hp
    · rcases List.mem_append.mp hp with hp | hp
      · exact hold p (List.mem_append_left _ (List.mem_append_left _ hp))
      · rcases hregular with hidle | ⟨hquoting, -⟩
        · have hcontinues := continues_committed k.phase hidle fun r hr => k.journal.result_mem hr
          rw [Flow.claim_of_idle hcontinues.1] at hp
          cases hp
        · rw [k.phase] at hquoting
          cases hquoting with
          | @confirming confirmed =>
            have hid : p.1 = f.lockId := by
              cases result <;> exact congrArg Prod.fst (List.mem_singleton.mp hp)
            rw [hid]
            exact h.claims (f.lockId, .confirmed confirmed.ticket confirmed.lockTxHash)
              (k.claimed (by rw [k.phase]; rfl))
          | abandoning | writing => cases result <;> cases hp
    · exact hold p (List.mem_append_right _ hp)

end App20.Maker
