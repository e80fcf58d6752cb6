import App20.Maker.RecordRuns
import App20.Maker.Versions

/-!
# Locks over a run

What holds of the locks in memory and in the journal after any steps, and of the versions that
operations in flight have read or are about to write.

* `step_store`: what a step does with the locks of the store.
* `soundNode_reached`: the locks are canonical, and as long as the store has not failed those in
  memory are those in the journal.
-/

namespace App20.Maker

open App20.Lib App20.Lib.Exec App20.Domain App20.Intents

/-! ## Locks -/

structure SoundLock (r : StoredLock) : Prop where
  canonical : canonicalStoredLock r = .ok r
  untouched : r.state = .locking → r.lockTxHash = "0x0".toList ∧ r.items = .fresh
  bounded : ∀ a ∈ r.items.attempt, a.1 ≤ r.items.attempts

def SoundLocks (locks : Locks) : Prop := ∀ r ∈ locks.entries, SoundLock r

variable {config : Config} {locks : Locks} {lockId : Text} {now : Int} {r c : StoredLock}

theorem SoundLocks.canonicalLocks (h : SoundLocks locks) : CanonicalLocks locks :=
  fun r hr => (h r hr).canonical

theorem SoundLocks.get? (h : SoundLocks locks) (hr : locks.get? lockId = some r) :
    IsVersion lockId r ∧ SoundLock r := by
  obtain ⟨hmem, hid⟩ := Table.get?_eq_some.mp hr
  exact ⟨⟨hid, (h r hmem).canonical⟩, h r hmem⟩

theorem SoundLocks.put (h : SoundLocks locks) (hr : SoundLock r) : SoundLocks (locks.put r) := by
  intro x hx
  rcases Table.mem_put.mp hx with rfl | ⟨hx, -⟩
  · exact hr
  · exact h x hx

theorem SoundLocks.erase (h : SoundLocks locks) : SoundLocks (locks.erase lockId) :=
  fun x hx => h x (Table.mem_erase.mp hx).1

variable {tx : LockTx} {chain : Option OnChainLock} {f : Flow} {b b' : Books} {rfq : PrivateRfqV2}
  {answers : QuoteAnswers} {i : Nat}

/-- No transaction makes an attempt with a number that was not counted. -/
theorem Effect.bounded {before after : Items} (h : tx.Effect before after)
    (hb : ∀ a ∈ before.attempt, a.1 ≤ before.attempts) :
    ∀ a ∈ after.attempt, a.1 ≤ after.attempts := by
  cases tx with
  | confirm =>
    rw [h]
    intro a ha
    cases ha
  | sign | abandon | quarantine | persist | resolve =>
    rw [h]
    exact hb
  | convert | submit =>
    rw [h]
    intro a ha
    cases ha
    exact le_refl _
  | failure pending clears =>
    rw [h]
    cases clears with
    | none => exact hb
    | some read =>
      intro a ha
      cases ha
  | refresh =>
    rw [h]
    intro a ha
    cases ha
  | terminal =>
    rcases h with rfl | ⟨t, -, -, rfl⟩
    · exact hb
    · intro a ha
      exact hb a (Option.filter_eq_some_iff.mp ha).1

section

variable {w : LockWrite} (h : SoundLocks locks) (hsound : tx.Sound lockId)
  (hedit : tx.edit lockId now (locks.get? lockId) = .ok w)

include h hsound hedit

/-- What a transaction writes is a lock of the store again. -/
theorem SoundLocks.apply : SoundLocks (w.apply lockId locks) := by
  cases hr : locks.get? lockId with
  | none =>
    rw [hr] at hedit
    rw [edit_none hedit]
    exact h
  | some r =>
    rw [hr] at hedit
    obtain ⟨hversion, hlock⟩ := h.get? hr
    rcases edit_version hsound hversion hlock.untouched hedit with
      rfl | ⟨rfl, -⟩ | ⟨c, hc, hversion, hstate, heffect⟩
    · exact h
    · exact h.erase
    · have hput : SoundLocks (locks.put c) := h.put ⟨hversion.canonical,
        fun hlocking => absurd hlocking hstate, Effect.bounded heffect hlock.bounded⟩
      cases w with
      | keep | remove => cases hc
      | put record | refuse record =>
        cases hc
        exact hput

theorem SoundLocks.edit_result (hw : w.result = some c) : IsVersion lockId c := by
  cases hr : locks.get? lockId with
  | none =>
    rw [hr] at hedit
    rw [edit_none hedit] at hw
    cases hw
  | some r =>
    rw [hr] at hedit
    obtain ⟨hversion, hlock⟩ := h.get? hr
    rcases edit_version hsound hversion hlock.untouched hedit with
      rfl | ⟨rfl, -⟩ | ⟨c', hc', hversion, -⟩
    · cases hw
    · cases hw
    · cases w with
      | keep | remove | refuse => cases hw
      | put record =>
        cases hw
        cases hc'
        exact hversion

end

/-! ## Phases -/

def After.Sound : After → Prop
  | .confirmed record => record.lockTxHash ≠ "0x0".toList
  | _ => True

/-- What an operation on the lock with an id has read is a version of it, and what it is about to
write is one as well. -/
def Phase.Sound (lockId : Text) : Phase → Prop
  | .commit tx after => tx.Sound lockId ∧ after.Sound
  | .locking record => IsVersion lockId record ∧ record.items = .fresh
  | .signing confirmed => confirmed.lockTxHash ≠ "0x0".toList
  | .reading record => IsVersion lockId record ∧ record.items.attempt = none
  | .receipt record | .unknown record _ | .resetting record => IsVersion lockId record
  | .done | .listing | .next | .handing _ _ _ _ | .handed _ _ _ | .reconciling _ _ => True

theorem sound_beginUnknown (hr : IsVersion lockId r) : (beginUnknown r).Sound lockId := by
  unfold beginUnknown
  split <;> exact hr

theorem sound_continueRefresh (hr : IsVersion lockId r) : (continueRefresh r).Sound lockId := by
  unfold continueRefresh
  split
  · exact sound_beginUnknown hr
  · rename_i hnone
    refine ⟨hr, ?_⟩
    simpa [StoredLock.items] using hnone

theorem sound_beginRefresh (h : SoundLocks locks) : (beginRefresh locks lockId now).Sound lockId := by
  unfold beginRefresh
  split
  · trivial
  · rename_i record hrecord
    split
    · trivial
    · split
      · split
        · exact ⟨trivial, trivial⟩
        · exact ⟨trivial, trivial⟩
      · exact sound_continueRefresh (h.get? hrecord).1

theorem sound_beginReset (h : SoundLocks locks) : (beginReset locks lockId).Sound lockId := by
  unfold beginReset
  split
  · trivial
  · rename_i record hrecord
    split
    · exact (h.get? hrecord).1
    · trivial

theorem sound_writeExact {read candidate exact : StoredLock} {chain chain' : OnChainLock}
    {retry : Bool} (hcandidate : IsVersion lockId candidate) (hitems : candidate.items = read.items)
    (h : lockStateFromChain candidate chain now = .ok exact) :
    (writeExact read exact chain' retry).Sound lockId := by
  obtain ⟨hversion, hstate, hexact⟩ := lockStateFromChain_version hcandidate h
  refine ⟨⟨hversion, hstate, by rw [hexact, hitems]⟩, ?_⟩
  split <;> trivial

theorem refreshCandidate_version {chain : OnChainLock} (hr : IsVersion lockId r)
    (h : refreshCandidate r chain now = .ok c) : IsVersion lockId c ∧ c.items = r.items := by
  unfold refreshCandidate at h
  split at h
  · obtain ⟨hversion, -, hitems⟩ := hr.next h rfl rfl
    exact ⟨hversion, hitems⟩
  · cases h
    exact ⟨hr, rfl⟩

theorem sound_refreshed (hr : IsVersion lockId r) : (refreshed r chain now).Sound lockId := by
  unfold refreshed
  split
  · exact ⟨trivial, trivial⟩
  · split
    · exact ⟨trivial, trivial⟩
    · split
      · rename_i e _
        cases e <;> exact ⟨trivial, trivial⟩
      · rename_i candidate bound h
        simp only [bind_ok, pure_ok, Prod.mk.injEq] at h
        obtain ⟨_, hcandidate, _, -, rfl, rfl⟩ := h
        obtain ⟨hversion, hitems⟩ := refreshCandidate_version hr hcandidate
        split
        · trivial
        · rename_i exact hexact
          exact sound_writeExact hversion hitems hexact

theorem sound_receiptRead {receipt : Option MakerTransactionReceipt} (hr : IsVersion lockId r) :
    (receiptRead r receipt).Sound lockId := by
  unfold receiptRead
  split
  · split
    · exact hr
    · exact ⟨trivial, trivial⟩
    · exact hr
  · exact hr

theorem sound_unknownRead {receipt : Option ReceiptStatus} (hr : IsVersion lockId r) :
    (unknownRead r receipt chain now).Sound lockId := by
  unfold unknownRead
  split
  · exact ⟨trivial, trivial⟩
  · split <;> exact ⟨trivial, trivial⟩
  · dsimp only
    split
    · exact ⟨trivial, trivial⟩
    · split
      · split
        · trivial
        · rename_i exact hexact
          exact sound_writeExact hr rfl hexact
      · exact ⟨trivial, trivial⟩

theorem sound_resetRead (hr : IsVersion lockId r) : (resetRead r chain now).Sound lockId := by
  unfold resetRead
  split
  · exact ⟨trivial, trivial⟩
  · exact ⟨trivial, trivial⟩
  · split
    · exact ⟨trivial, trivial⟩
    · split
      · trivial
      · rename_i exact hexact
        exact sound_writeExact hr rfl hexact

theorem sound_terminalRead {request : V3TerminalRequest} :
    (terminalRead request r chain).Sound lockId := by
  unfold terminalRead
  dsimp only
  split
  · exact ⟨trivial, trivial⟩
  · exact ⟨trivial, trivial⟩
  · split <;> exact ⟨trivial, trivial⟩

theorem sound_beginTerminal {request : V3TerminalRequest} :
    (beginTerminal locks request).Sound lockId := by
  unfold beginTerminal
  split
  · trivial
  · rename_i initial _
    dsimp only
    have hbegin : (if initial.state = .quarantined then Phase.done
        else if sameV3Binding initial request.target then .reconciling request initial
        else .commit .quarantine .finish).Sound lockId := by
      split
      · trivial
      · split
        · trivial
        · exact ⟨trivial, trivial⟩
    split
    · exact hbegin
    · split
      · trivial
      · split
        · split
          · trivial
          · exact ⟨trivial, trivial⟩
        · exact hbegin

theorem sound_submitLeft {chain : OnChainLock} : (submitLeft r chain).1.Sound lockId := by
  unfold submitLeft
  split
  · trivial
  · exact ⟨trivial, trivial⟩

theorem sound_proceed {stage : Stage} {chain : OnChainLock} :
    (proceed stage r chain now).1.Sound lockId := by
  unfold proceed
  split
  · trivial
  · split
    · trivial
    · split
      · exact sound_submitLeft
      · exact ⟨trivial, trivial⟩
  · exact sound_submitLeft
  · trivial

theorem confirmedRecord_version {ticket transactionHash : Text} {lock : OnChainLock}
    (hr : IsVersion lockId r) (hfresh : r.items = .fresh)
    (h : confirmedRecord r ticket transactionHash lock now = .ok c) :
    IsVersion lockId c ∧ c.state ≠ .locking ∧ c.items = .fresh ∧ c.lockTxHash ≠ "0x0".toList := by
  unfold confirmedRecord at h
  simp only [bind_ok, throwIf_ok, pure_ok, exists_const] at h
  obtain ⟨_, -, hash, hhash, hnonzero, opened, hopened, confirmed, hconfirmed, -, rfl⟩ := h
  rw [not_or] at hnonzero
  have hversion : IsVersion lockId opened := hr.of_canonical hopened rfl
  obtain ⟨hc, hstate, hitems⟩ := lockStateFromChain_version hversion hconfirmed
  have hopenedItems : opened.items = r.items := by
    rw [canonical_items hopened, ← hr.items_normal]
    rfl
  refine ⟨hc, hstate, ?_, ?_⟩
  · rw [hitems, hopenedItems, hfresh]
    rfl
  · have hopenedHash : opened.lockTxHash = lowered hash :=
      congrArg StoredLock.lockTxHash (canonicalStoredLock_ok hopened).1
    have hconfirmedHash : c.lockTxHash = lowered opened.lockTxHash := by
      unfold lockStateFromChain at hconfirmed
      obtain ⟨bound, -, hconfirmed⟩ := bind_ok.mp hconfirmed
      exact congrArg StoredLock.lockTxHash (canonicalStoredLock_ok hconfirmed).1
    have hsame : c.lockTxHash = hash := by
      rw [hconfirmedHash, hopenedHash, requireFeltText_ok hhash, lowered_lowered, lowered_lowered]
    intro hzero
    apply hnonzero.2
    rw [← hsame, hzero]
    decide

theorem sound_lockAnswered {a : Answer} (hr : IsVersion lockId r) (hfresh : r.items = .fresh) :
    (lockAnswered r now a).Sound lockId := by
  unfold lockAnswered
  split
  · split
    · rename_i confirmed hconfirmed
      obtain ⟨hversion, hstate, hitems, hhash⟩ := confirmedRecord_version hr hfresh hconfirmed
      exact ⟨⟨hversion, hstate, hitems⟩, hhash⟩
    · exact ⟨trivial, trivial⟩
    · exact ⟨trivial, trivial⟩
  · exact ⟨trivial, trivial⟩
  · exact ⟨trivial, trivial⟩
  · exact ⟨hr, hfresh⟩

/-! ## Flows -/

def Flow.Sound (f : Flow) : Prop := f.phase.Sound f.lockId

theorem Flow.Sound.advance (hf : f.Sound) (h : SoundLocks locks) : (f.advance locks).Sound := by
  unfold Flow.advance
  split
  · trivial
  · exact sound_beginRefresh h
  · trivial
  · exact hf

theorem Flow.Sound.answer {a : Answer} (hf : f.Sound) (h : SoundLocks locks) :
    (f.answer locks a).Sound := by
  unfold Flow.Sound at hf
  unfold Flow.answer Flow.Sound
  dsimp only
  split
  · rename_i record _ hphase
    rw [hphase] at hf
    exact sound_lockAnswered hf.1 hf.2
  · rename_i confirmed signature quoteDigest hphase
    rw [hphase] at hf
    split
    · rename_i signature' hsignature
      exact ⟨⟨hf, requireText_again hsignature⟩, trivial⟩
    · trivial
  · trivial
  · rename_i record _ hphase
    rw [hphase] at hf
    exact sound_refreshed hf.1
  · rename_i record _ hphase
    rw [hphase] at hf
    exact sound_receiptRead hf
  · rename_i record _ _ hphase
    rw [hphase] at hf
    exact sound_unknownRead hf
  · split <;> exact ⟨trivial, trivial⟩
  · exact sound_beginReset h
  · split <;> exact ⟨trivial, trivial⟩
  · rename_i record _ hphase
    rw [hphase] at hf
    exact sound_resetRead hf
  · exact sound_terminalRead
  · exact hf

theorem Flow.Sound.hand (hf : f.Sound) : f.hand.Sound := by
  unfold Flow.hand
  split
  · trivial
  · exact hf

theorem Flow.Sound.committed {after : After}
    {result : Except (Option MakerError) (Option StoredLock)} (hf : f.Sound)
    (hphase : f.phase = .commit tx after)
    (hresult : ∀ r, result = .ok (some r) → IsVersion f.lockId r) :
    (f.committed after result).Sound := by
  unfold Flow.Sound at hf
  rw [hphase] at hf
  have hafter := hf.2
  unfold Flow.committed
  split
  · trivial
  · exact sound_proceed
  · rename_i record
    exact sound_continueRefresh (hresult record rfl)
  · trivial
  · rename_i record
    exact sound_beginUnknown (hresult record rfl)
  · trivial
  · trivial
  · trivial
  · exact ⟨trivial, trivial⟩
  · exact hafter
  · exact ⟨trivial, trivial⟩
  · exact ⟨trivial, trivial⟩
  · trivial

/-! ## Transactions -/

/-- The locks of a store: canonical, and the same in memory as in the journal until it fails. -/
structure SoundStore (j : Journal Books) : Prop where
  locks : j.Holds fun b => SoundLocks b.locks
  same : j.failed = false → j.memory.locks = j.durable.locks

/-- The locks of the store are left as they are. -/
structure Left (j j' : Journal Books) : Prop where
  memory : j'.memory.locks = j.memory.locks
  durable : j'.durable.locks = j.durable.locks
  failed : j'.failed = false → j.failed = false

/-- These locks are in the journal now, and in memory if the store has not failed. -/
structure Wrote (j j' : Journal Books) (locks : Locks) : Prop where
  opened : j.failed = false
  durable : j'.durable.locks = locks
  memory : (j'.failed = false ∧ j'.memory.locks = locks) ∨
    (j'.failed = true ∧ j'.memory.locks = j.memory.locks)

variable {j j' : Journal Books} {append : Append} {α : Type}

theorem Left.refl (j : Journal Books) : Left j j := ⟨rfl, rfl, id⟩

theorem Left.of_eq (h : j' = j) : Left j j' := h ▸ Left.refl j

theorem SoundStore.left (h : SoundStore j) (hj : Left j j') : SoundStore j' := by
  refine ⟨⟨?_, ?_⟩, fun hopened => ?_⟩
  · show SoundLocks j'.memory.locks
    rw [hj.memory]
    exact h.locks.memory
  · show SoundLocks j'.durable.locks
    rw [hj.durable]
    exact h.locks.durable
  · rw [hj.memory, hj.durable]
    exact h.same (hj.failed hopened)

theorem SoundStore.wrote (h : SoundStore j) (hlocks : SoundLocks locks) (hj : Wrote j j' locks) :
    SoundStore j' := by
  refine ⟨⟨?_, ?_⟩, fun hopened => ?_⟩
  · show SoundLocks j'.memory.locks
    rcases hj.memory with ⟨-, hmemory⟩ | ⟨-, hmemory⟩ <;> rw [hmemory]
    · exact hlocks
    · exact h.locks.memory
  · show SoundLocks j'.durable.locks
    rw [hj.durable]
    exact hlocks
  · rcases hj.memory with ⟨-, hmemory⟩ | ⟨hfailed, -⟩
    · rw [hmemory, hj.durable]
    · rw [hfailed] at hopened
      cases hopened

/-- Writing the locks that are there leaves them. -/
theorem Wrote.left (hj : Wrote j j' j.memory.locks) (h : SoundStore j) : Left j j' := by
  refine ⟨?_, ?_, fun _ => hj.opened⟩
  · rcases hj.memory with ⟨-, hmemory⟩ | ⟨-, hmemory⟩ <;> exact hmemory
  · rw [hj.durable, h.same hj.opened]

theorem write_locks (h : CanonicalLocks b.locks) (hb : b.write = .ok b') : b'.locks = b.locks := by
  obtain ⟨records, -, hb⟩ := bind_ok.mp hb
  obtain ⟨locks, hlocks, hb⟩ := bind_ok.mp hb
  cases hb
  rw [Table.mapM_eq_self h] at hlocks
  cases hlocks
  rfl

theorem read_locks (h : CanonicalLocks b.locks) (hb : b.read = .ok b') : b'.locks = b.locks := by
  obtain ⟨records, -, hb⟩ := bind_ok.mp hb
  obtain ⟨locks, hlocks, hb⟩ := bind_ok.mp hb
  cases hb
  rw [Table.mapM_eq_self h] at hlocks
  cases hlocks
  rfl

theorem withRecords_locks (hb : b.withRecords = .ok b') : b'.locks = b.locks := by
  obtain ⟨records, -, hb⟩ := bind_ok.mp hb
  cases hb
  rfl

theorem transaction_left {m : BooksM α} (h : SoundStore j)
    (hm : ∀ s a t, IsDraft s → Returns m s a t → t.locks = s.locks) :
    Left j (transaction m append j).2 := by
  unfold transaction
  rcases Journal.transact_cases Books.withRecords Books.write (committing Books.withLocks m) append
    j with ⟨e, j', hj, hmemory, hdurable, hfailed⟩ | ⟨a, next, written, hattempt, hj⟩
  · rw [hj]
    exact ⟨congrArg Books.locks hmemory, congrArg Books.locks hdurable, hfailed⟩
  · obtain ⟨hopened, draft, hdraft, hreturns, hwritten⟩ := Journal.attempt_ok hattempt
    obtain ⟨u, v, hbody, hclone, rfl⟩ := returns_committing.mp hreturns
    obtain ⟨records, hrecords, hdraft⟩ := bind_ok.mp hdraft
    cases hdraft
    have hdraft : IsDraft { j.memory with records } := cloneRecords_isDraft hrecords
    have hu := hm _ a u hdraft hbody
    have hu : u.locks = j.memory.locks := hu
    have hcanonical := h.locks.memory.canonicalLocks
    rw [withLocks_eq (by rw [hu]; exact hcanonical)] at hclone
    cases hclone
    have hdurable : written.locks = j.durable.locks := by
      rw [write_locks (by exact hu ▸ hcanonical) hwritten, ← h.same hopened]
      exact hu
    rcases hj with hj | hj <;> rw [hj]
    · exact ⟨hu, hdurable, fun _ => hopened⟩
    · exact ⟨rfl, hdurable, fun hfailed => by cases hfailed⟩

/-- A transaction on the locks leaves them, or writes those that its program makes; its caller is
told what the program returned, or of an error. -/
theorem lockTransaction_wrote {m : BooksM α} (append : Append) (h : SoundStore j)
    (hm : ∀ a t, Returns m j.memory a t → SoundLocks t.locks) :
    (Left j (lockTransaction m append j).2 ∧ ∀ a, (lockTransaction m append j).1 ≠ .ok a) ∨
      ∃ a t, Returns m j.memory a t ∧ Wrote j (lockTransaction m append j).2 t.locks ∧
        ((lockTransaction m append j).1 = .ok a ∧ (lockTransaction m append j).2.failed = false ∨
          ∃ e, (lockTransaction m append j).1 = .error e) := by
  unfold lockTransaction
  rcases Journal.transact_cases Books.withLocks Books.write (committing Books.withRecords m) append
    j with ⟨e, j', hj, hmemory, hdurable, hfailed⟩ | ⟨a, next, written, hattempt, hj⟩
  · rw [hj]
    refine Or.inl ⟨⟨congrArg Books.locks hmemory, congrArg Books.locks hdurable, hfailed⟩, ?_⟩
    intro a ha
    cases ha
  · obtain ⟨hopened, draft, hdraft, hreturns, hwritten⟩ := Journal.attempt_ok hattempt
    obtain ⟨u, v, hbody, hclone, rfl⟩ := returns_committing.mp hreturns
    rw [withLocks_eq h.locks.memory.canonicalLocks] at hdraft
    cases hdraft
    have hv : v.locks = u.locks := withRecords_locks hclone
    have hu := hm a u hbody
    have hdurable : written.locks = u.locks := by
      rw [write_locks (by exact hv ▸ hu.canonicalLocks) hwritten]
      exact hv
    refine Or.inr ⟨a, u, hbody, ?_⟩
    rcases hj with hj | hj <;> rw [hj]
    · exact ⟨⟨hopened, hdurable, Or.inl ⟨rfl, hv⟩⟩, Or.inl ⟨rfl, rfl⟩⟩
    · exact ⟨⟨hopened, hdurable, Or.inr ⟨rfl, rfl⟩⟩, Or.inr ⟨none, rfl⟩⟩

theorem reopen_locks (h : SoundStore j) :
    (j.reopen Books.read).durable = j.durable ∧
    ((j.reopen Books.read).failed = false → (j.reopen Books.read).memory.locks = j.durable.locks) ∧
      SoundLocks (j.reopen Books.read).memory.locks := by
  unfold Journal.reopen
  split
  · rename_i b hb
    have hlocks := read_locks h.locks.durable.canonicalLocks hb
    exact ⟨rfl, fun _ => hlocks, by rw [hlocks]; exact h.locks.durable⟩
  · exact ⟨rfl, (fun hfailed => by cases hfailed), h.locks.memory⟩

theorem SoundStore.reopen (h : SoundStore j) : SoundStore (j.reopen Books.read) := by
  obtain ⟨hdurable, hsame, hmemory⟩ := reopen_locks h
  refine ⟨⟨hmemory, ?_⟩, ?_⟩
  · rw [hdurable]
    exact h.locks.durable
  · rw [hdurable]
    exact hsame

/-! ## Steps on the store -/

theorem returns_draft {s t : Books} {a : Option StoredLock} :
    Returns (tx.draft lockId now) s a t ↔ ∃ write,
      tx.edit lockId now (s.locks.get? lockId) = .ok write ∧ a = write.result ∧
        t = { s with locks := write.apply lockId s.locks } := by
  unfold LockTx.draft
  rw [returns_get_bind, returns_lift_bind]
  constructor
  · rintro ⟨write, hwrite, h⟩
    cases h
    exact ⟨write, hwrite, rfl, rfl⟩
  · rintro ⟨write, hwrite, rfl, rfl⟩
    exact ⟨write, hwrite, rfl⟩

/-- A lock as `quoteV3` makes it. -/
structure NewLock (locks : Locks) (r : StoredLock) : Prop where
  sound : SoundLock r
  fresh : r.items = .fresh
  new : locks.get? r.lockId = none

theorem acquireLock_new {rfqDigest : Text} {balance : Int} {s t : Books}
    (h : Returns (acquireLock config rfq rfqDigest answers now) s (.acquired r balance) t) :
    NewLock s.locks r ∧ t.locks = s.locks.put r := by
  obtain ⟨rfl, hnew, hcanonical, -, hitems, hhash, -⟩ := acquireLock_acquired h
  refine ⟨⟨⟨hcanonical, fun _ => ⟨hhash, hitems⟩, ?_⟩, hitems, hnew⟩, rfl⟩
  rw [hitems]
  intro a ha
  cases ha

inductive StoreStep (w : Node) : Step → Journal Books → Prop
  | left {x : Step} {j : Journal Books} (left : Left w.journal j) : StoreStep w x j
  | restarted : StoreStep w .restart (w.journal.reopen Books.read)
  | acquired {rfq : PrivateRfqV2} {answers : QuoteAnswers} {now : Int} {append : Append}
      {r : StoredLock} {j : Journal Books} (new : NewLock w.journal.memory.locks r)
      (wrote : Wrote w.journal j (w.journal.memory.locks.put r)) :
      StoreStep w (.quote rfq answers now append) j
  | edited {i : Nat} {append : Append} {f : Flow} {tx : LockTx} {after : After} {write : LockWrite}
      {j : Journal Books} (flow : w.flows[i]? = some f) (phase : f.phase = .commit tx after)
      (edit : tx.edit f.lockId f.now (w.journal.memory.locks.get? f.lockId) = .ok write)
      (wrote : Wrote w.journal j (write.apply f.lockId w.journal.memory.locks)) :
      StoreStep w (.commit i append) j

/-- A node whose locks and operations on locks are as the code makes them. -/
structure SoundNode (w : Node) : Prop where
  store : SoundStore w.journal
  flows : ∀ f ∈ w.flows, f.Sound

variable {w : Node}

theorem SoundNode.flow (h : SoundNode w) (hf : w.flows[i]? = some f) :
    f.Sound := h.flows f (List.mem_of_getElem? hf)

theorem quote_store (h : SoundStore w.journal) :
    StoreStep w (.quote rfq answers now append)
      (w.quote config rfq answers now append).journal := by
  rcases Node.quote_journal with hj | ⟨rfqDigest, hj⟩
  · rw [hj]
    exact .left (Left.refl _)
  · rw [hj]
    have hsound : ∀ a t, Returns (acquireLock config rfq rfqDigest answers now) w.journal.memory a t →
        SoundLocks t.locks := by
      intro a t hreturns
      rcases acquireLock_returns hreturns with rfl | ⟨record, balance, rfl⟩
      · exact h.locks.memory
      · obtain ⟨hnew, hput⟩ := acquireLock_new hreturns
        rw [hput]
        exact SoundLocks.put h.locks.memory hnew.sound
    rcases lockTransaction_wrote append h hsound with ⟨hleft, -⟩ | ⟨a, t, hreturns, hwrote, -⟩
    · exact .left hleft
    · rcases acquireLock_returns hreturns with rfl | ⟨record, balance, rfl⟩
      · exact .left (hwrote.left h)
      · obtain ⟨hnew, hput⟩ := acquireLock_new hreturns
        rw [hput] at hwrote
        exact .acquired hnew hwrote

theorem commit_store (h : SoundNode w) :
    StoreStep w (.commit i append) (w.commit i append).journal := by
  rcases Node.commit_journal with hj | ⟨f, tx, after, hf, hphase, hj⟩
  · rw [hj]
    exact .left (Left.refl _)
  · rw [hj]
    have hflow := h.flow hf
    unfold Flow.Sound at hflow
    rw [hphase] at hflow
    have hsound : ∀ a t, Returns (tx.draft f.lockId f.now) w.journal.memory a t →
        SoundLocks t.locks := by
      intro a t hreturns
      obtain ⟨write, hedit, -, rfl⟩ := returns_draft.mp hreturns
      exact SoundLocks.apply h.store.locks.memory hflow.1 hedit
    rcases lockTransaction_wrote append h.store hsound with ⟨hleft, -⟩ | ⟨a, t, hreturns, hwrote, -⟩
    · exact .left hleft
    · obtain ⟨write, hedit, -, rfl⟩ := returns_draft.mp hreturns
      exact .edited hf hphase hedit hwrote

theorem act_left {op : ReservationOp} (h : SoundStore w.journal) :
    Left w.journal (w.act config op now append).journal := by
  unfold Node.act
  split
  · exact Left.refl _
  · rename_i m hm
    exact transaction_left h fun s a t hs hreturns => (program_revises hm hs hreturns).locks

theorem reserve_left {request : MakerQuoteRequest} {answers : ReserveAnswers}
    (h : SoundStore w.journal) :
    Left w.journal (w.reserve config request answers now append).journal := by
  unfold Node.reserve
  split
  · exact Left.refl _
  · refine transaction_left h fun s a t _ hreturns => ?_
    obtain ⟨p, hrevises, ht⟩ : ∃ p, Revises config .none s p ∧ _ := reserveDraft_returns hreturns
    rcases ht with rfl | ⟨r, -, rfl⟩
    · exact hrevises.locks
    · exact hrevises.locks

/-- Every step leaves the locks, but a restart, a new lock and a transaction on a lock. -/
theorem step_store (config : Config) (x : Step) (h : SoundNode w) :
    StoreStep w x (step config w x).journal := by
  have hstore := h.store
  cases x with
  | restart => exact .restarted
  | quote rfq answers now append => exact quote_store hstore
  | commit i append => exact commit_store h
  | reserve request answers now append => exact .left (reserve_left hstore)
  | act op now append => exact .left (act_left hstore)
  | fill request attemptId now append =>
    show StoreStep w _ (w.fill request attemptId now append).journal
    rcases Node.fill_journal with hj | hj <;> rw [hj]
    · exact .left (Left.refl _)
    · exact .left (transaction_left hstore fun s a t _ hreturns =>
        (show Revises config .none s t from (beginFill_returns hreturns).1).locks)
  | commitFill i append =>
    show StoreStep w _ (w.commitFill i append).journal
    rcases Node.commitFill_journal with hj | ⟨f, ⟨transactionHash, hj⟩ | hj⟩ <;> rw [hj]
    · exact .left (Left.refl _)
    · exact .left (transaction_left hstore fun s a t _ hreturns =>
        (show Revises config .none s t from completeFill_revises hreturns).locks)
    · exact .left (transaction_left hstore fun s a t _ hreturns =>
        (show Revises config .none s t from failFill_revises hreturns).locks)
  | recover now append =>
    show StoreStep w _ (w.recover now append).journal
    rcases Node.recover_journal with hj | hj <;> rw [hj]
    · exact .left (Left.refl _)
    · exact .left (transaction_left hstore fun s a t _ hreturns =>
        (show Revises config .none s t from recoverDraft_revises hreturns).locks)
  | invokeFill i => exact .left (.of_eq Node.invokeFill_journal)
  | answerFill i answer => exact .left (.of_eq Node.answerFill_journal)
  | settleExpired now => exact .left (.of_eq Node.settleExpired_journal)
  | resolve lockId reason now => exact .left (.of_eq Node.resolve_journal)
  | reconcileLock input now => exact .left (.of_eq Node.reconcileLock_journal)
  | advance i => exact .left (.of_eq Node.advance_journal)
  | answer i a => exact .left (.of_eq Node.answer_journal)
  | hand i => exact .left (.of_eq Node.hand_journal)

/-! ## Runs -/

theorem SoundStore.edit {write : LockWrite} (h : SoundStore j) (hsound : tx.Sound lockId)
    (hedit : tx.edit lockId now (j.memory.locks.get? lockId) = .ok write)
    (hj : Wrote j j' (write.apply lockId j.memory.locks)) : SoundStore j' :=
  h.wrote (SoundLocks.apply h.locks.memory hsound hedit) hj

theorem SoundNode.store_step (h : SoundNode w) (x : Step) :
    SoundStore (step config w x).journal := by
  cases step_store config x h with
  | left hleft => exact h.store.left hleft
  | restarted => exact h.store.reopen
  | acquired hnew hwrote => exact h.store.wrote (SoundLocks.put h.store.locks.memory hnew.sound) hwrote
  | edited hf hphase hedit hwrote =>
    have hflow := h.flow hf
    unfold Flow.Sound at hflow
    rw [hphase] at hflow
    exact h.store.edit hflow.1 hedit hwrote

theorem sound_set (h : ∀ f ∈ w.flows, f.Sound) (hf : f.Sound) : ∀ g ∈ w.flows.set i f, g.Sound := by
  intro g hg
  rcases List.mem_or_eq_of_mem_set hg with hg | rfl
  · exact h g hg
  · exact hf

theorem sound_start (h : ∀ f ∈ w.flows, f.Sound) (hf : f.Sound) :
    ∀ g ∈ (w.start f).flows, g.Sound := by
  intro g hg
  rcases List.mem_append.mp hg with hg | hg
  · exact h g hg
  · cases List.mem_singleton.mp hg
    exact hf

theorem SoundNode.flows_quote (h : SoundNode w) :
    ∀ f ∈ (w.quote config rfq answers now append).flows, f.Sound := by
  unfold Node.quote
  split
  · exact h.flows
  · exact h.flows
  · split
    · rename_i record balance journal hacquired
      obtain ⟨locks, u, v, hcloned, hbody, -⟩ := lockTransaction_ok hacquired
      obtain ⟨hnew, -⟩ := acquireLock_new hbody
      exact sound_start h.flows ⟨⟨rfl, hnew.sound.canonical⟩, hnew.fresh⟩
    · exact h.flows

/-- The caller of a transaction on a lock is told what it has written. -/
theorem draft_ok {a : Option StoredLock} (h : SoundStore j)
    (hresult : (lockTransaction (tx.draft lockId now) append j).1 = .ok a) :
    ∃ write, tx.edit lockId now (j.memory.locks.get? lockId) = .ok write ∧ a = write.result := by
  obtain ⟨locks, u, v, hcloned, hbody, -⟩ := lockTransaction_ok (Prod.ext hresult rfl)
  rw [cloneLocks_eq h.locks.memory.canonicalLocks] at hcloned
  cases hcloned
  obtain ⟨write, hedit, hwrite, -⟩ := returns_draft.mp hbody
  exact ⟨write, hedit, hwrite⟩

theorem SoundNode.flows_commit (h : SoundNode w) : ∀ f ∈ (w.commit i append).flows, f.Sound := by
  unfold Node.commit
  split
  · exact h.flows
  · rename_i f hf
    split
    · rename_i tx after hphase
      refine sound_set h.flows (Flow.Sound.committed (h.flow hf) hphase ?_)
      intro r hr
      obtain ⟨write, hedit, hwrite⟩ := draft_ok h.store hr
      have hflow := h.flow hf
      unfold Flow.Sound at hflow
      rw [hphase] at hflow
      exact SoundLocks.edit_result h.store.locks.memory hflow.1 hedit hwrite.symm
    · exact h.flows

theorem SoundNode.flows_step (h : SoundNode w) (x : Step) :
    ∀ f ∈ (step config w x).flows, f.Sound := by
  have hmemory : SoundLocks w.journal.memory.locks := h.store.locks.memory
  cases x with
  | restart => exact fun f hf => by cases hf
  | quote rfq answers now append => exact h.flows_quote
  | commit i append => exact h.flows_commit
  | reserve request answers now append =>
    show ∀ f ∈ (w.reserve config request answers now append).flows, f.Sound
    unfold Node.reserve
    split <;> exact h.flows
  | act op now append =>
    show ∀ f ∈ (w.act config op now append).flows, f.Sound
    unfold Node.act
    split <;> exact h.flows
  | fill request attemptId now append =>
    show ∀ f ∈ (w.fill request attemptId now append).flows, f.Sound
    unfold Node.fill
    split
    · exact h.flows
    · split <;> exact h.flows
  | invokeFill i =>
    show ∀ f ∈ (w.invokeFill i).flows, f.Sound
    unfold Node.invokeFill
    split
    · exact h.flows
    · split <;> exact h.flows
  | answerFill i answer =>
    show ∀ f ∈ (w.answerFill i answer).flows, f.Sound
    unfold Node.answerFill
    split
    · exact h.flows
    · split <;> exact h.flows
  | commitFill i append =>
    show ∀ f ∈ (w.commitFill i append).flows, f.Sound
    unfold Node.commitFill
    split
    · exact h.flows
    · split
      · split <;> exact h.flows
      · exact h.flows
      · exact h.flows
  | settleExpired now =>
    show ∀ f ∈ (w.settleExpired now).flows, f.Sound
    unfold Node.settleExpired
    split
    · exact h.flows
    · exact sound_start h.flows trivial
  | recover now append =>
    show ∀ f ∈ (w.recover now append).flows, f.Sound
    unfold Node.recover
    split
    · exact h.flows
    · split
      · exact sound_start h.flows trivial
      · exact h.flows
  | resolve lockId reason now =>
    show ∀ f ∈ (w.resolve lockId reason now).flows, f.Sound
    unfold Node.resolve
    split
    · exact h.flows
    · exact sound_start h.flows ⟨trivial, trivial⟩
  | reconcileLock input now =>
    show ∀ f ∈ (w.reconcileLock input now).flows, f.Sound
    unfold Node.reconcileLock
    split
    · exact h.flows
    · exact sound_start h.flows sound_beginTerminal
  | advance i =>
    show ∀ f ∈ (w.advance i).flows, f.Sound
    unfold Node.advance
    split
    · exact h.flows
    · rename_i f hf
      exact sound_set h.flows (Flow.Sound.advance (h.flow hf) hmemory)
  | answer i a =>
    show ∀ f ∈ (w.answer i a).flows, f.Sound
    unfold Node.answer
    split
    · exact h.flows
    · rename_i f hf
      exact sound_set h.flows (Flow.Sound.answer (h.flow hf) hmemory)
  | hand i =>
    show ∀ f ∈ (w.hand i).flows, f.Sound
    unfold Node.hand
    split
    · exact h.flows
    · rename_i f hf
      split
      · exact sound_set h.flows (Flow.Sound.hand (h.flow hf))
      · exact h.flows

theorem SoundNode.step (h : SoundNode w) (x : Step) : SoundNode (Maker.step config w x) :=
  ⟨h.store_step x, h.flows_step x⟩

theorem soundNode_reached (config : Config) (steps : List Step) :
    SoundNode (reached config steps) := by
  refine run_invariant (I := SoundNode) (fun w x h => SoundNode.step h x) steps ?_
  have hempty : SoundLocks Books.empty.locks := fun r hr => by cases hr
  exact ⟨⟨⟨hempty, hempty⟩, fun _ => rfl⟩, fun f hf => by cases hf⟩

/-- A node that stops opens its store with the locks of the journal: until a failure, those in memory. -/
theorem restart_keeps_locks (config : Config) (steps : List Step) :
    let w := reached config steps
    (w.restart.journal.failed = true ∨ w.restart.journal.memory.locks = w.journal.durable.locks) ∧
    (w.journal.failed = true ∨ w.journal.memory.locks = w.journal.durable.locks) := by
  intro w
  have hstore := (soundNode_reached config steps).store
  obtain ⟨-, hopened, -⟩ := reopen_locks hstore
  refine ⟨?_, ?_⟩
  · exact (Bool.eq_false_or_eq_true _).imp_right hopened
  · exact (Bool.eq_false_or_eq_true _).imp_right hstore.same

end App20.Maker
