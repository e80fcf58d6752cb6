import App20.Maker.Quotes

/-!
# Locks that are being quoted

The versions of locks that are about, and how far the quotes of new locks have come.

* `Tracked`: a lock is signed once, and all its signed versions make the same quote. Each way in
  which an operation goes on keeps this.
* `Turn`: how an operation on a lock goes on when it does not write.
-/

namespace App20.Maker

open App20.Lib App20.Lib.Exec App20.Domain App20.Intents

/-! ## Tracking versions -/

/-- How far the quote of a new lock has come. -/
inductive Claim where
  | pending
  | confirmed (ticket lockTxHash : Text)
  | abandoned

/-- The versions that there may be of a lock that is being quoted. -/
def Claim.Allows (b : Bond) : Claim → Prop
  | pending => b.lockTxHash = zeroFelt
  | confirmed ticket lockTxHash =>
    b.lockTxHash = zeroFelt ∨ b.lockTxHash = lockTxHash ∧ b.ticket = ticket
  | abandoned => True

def Claim.Valid : Claim → Prop
  | pending | abandoned => True
  | confirmed ticket lockTxHash => sameFelt ticket zeroFelt = false ∧ lockTxHash ≠ zeroFelt

/-- Versions agree on what was fixed when their lock was made, signed versions agree on all, and a
lock that is being quoted has no signed version. -/
structure Tracked (versions : Bond → Prop) (claims : List (Text × Claim)) : Prop where
  terms : ∀ a b, versions a → versions b → a.lockId = b.lockId → a.terms = b.terms
  signed : ∀ a b, versions a → versions b → a.lockId = b.lockId → a.signature.isSome = true →
    b.signature.isSome = true → a = b
  ticketed : ∀ a, versions a → a.signature.isSome = true → sameFelt a.ticket zeroFelt = false
  alone : (claims.map Prod.fst).Nodup
  valid : ∀ p ∈ claims, p.2.Valid
  claimed : ∀ p ∈ claims, ∀ b, versions b → b.lockId = p.1 → b.signature = none ∧ p.2.Allows b

def adding (versions : Bond → Prop) (b : Bond) : Bond → Prop := fun a => versions a ∨ a = b

variable {versions : Bond → Prop} {claims : List (Text × Claim)} {b c : Bond}

variable {ticket : Text} {p : Phase} {r : StoredLock}

namespace Tracked

theorem mono {versions' : Bond → Prop} {claims' : List (Text × Claim)}
    (h : Tracked versions claims) (hversions : ∀ b, versions' b → versions b)
    (hclaims : claims'.Sublist claims) : Tracked versions' claims' where
  terms a b ha hb := h.terms a b (hversions a ha) (hversions b hb)
  signed a b ha hb := h.signed a b (hversions a ha) (hversions b hb)
  ticketed a ha := h.ticketed a (hversions a ha)
  alone := h.alone.sublist (hclaims.map _)
  valid p hp := h.valid p (hclaims.subset hp)
  claimed p hp b hb := h.claimed p (hclaims.subset hp) b (hversions b hb)

theorem add (h : Tracked versions claims)
    (hterms : ∀ a, versions a → a.lockId = b.lockId → a.terms = b.terms)
    (hsigned : ∀ a, versions a → a.lockId = b.lockId → a.signature.isSome = true →
      b.signature.isSome = true → a = b)
    (hticketed : b.signature.isSome = true → sameFelt b.ticket zeroFelt = false)
    (hclaimed : ∀ p ∈ claims, b.lockId = p.1 → b.signature = none ∧ p.2.Allows b) :
    Tracked (adding versions b) claims where
  terms := by
    rintro x y (hx | rfl) (hy | rfl) hid
    · exact h.terms x y hx hy hid
    · exact hterms x hx hid
    · exact (hterms y hy hid.symm).symm
    · rfl
  signed := by
    rintro x y (hx | rfl) (hy | rfl) hid hsx hsy
    · exact h.signed x y hx hy hid hsx hsy
    · exact hsigned x hx hid hsx hsy
    · exact (hsigned y hy hid.symm hsy hsx).symm
    · rfl
  ticketed := by
    rintro x (hx | rfl) hs
    · exact h.ticketed x hx hs
    · exact hticketed hs
  alone := h.alone
  valid := h.valid
  claimed := by
    rintro p hp x (hx | rfl) hid
    · exact h.claimed p hp x hx hid
    · exact hclaimed p hp hid

/-- A copy of a version, or one that only differs in a ticket that was missing. -/
theorem later (h : Tracked versions claims) (hb : versions b)
    (hc : c = b ∨ sameFelt b.ticket zeroFelt = true ∧ ∃ ticket, c = { b with ticket }) :
    Tracked (adding versions c) claims := by
  rcases hc with rfl | ⟨hzero, ticket, rfl⟩
  · exact h.mono (fun a ha => ha.elim id fun hab => hab ▸ hb) (List.Sublist.refl _)
  · have hunsigned : b.signature.isSome = true → False := fun hs => by
      have := h.ticketed b hb hs
      rw [hzero] at this
      cases this
    refine h.add (fun a ha hid => h.terms a b ha hb hid) (fun a _ _ _ hs => (hunsigned hs).elim)
      (fun hs => (hunsigned hs).elim) fun p hp hid => ?_
    obtain ⟨hsignature, hallows⟩ := h.claimed p hp b hb hid
    refine ⟨hsignature, ?_⟩
    obtain ⟨id, claim⟩ := p
    cases claim with
    | pending => exact hallows
    | abandoned => trivial
    | confirmed t hash =>
      rcases hallows with hallows | ⟨-, hticket⟩
      · exact Or.inl hallows
      · have hvalid := (h.valid _ hp).1
        rw [← hticket, hzero] at hvalid
        cases hvalid

theorem acquire (h : Tracked versions claims) (hnew : ∀ a, versions a → a.lockId ≠ b.lockId)
    (hclaims : ∀ p ∈ claims, p.1 ≠ b.lockId) (hhash : b.lockTxHash = zeroFelt)
    (hunsigned : b.signature = none) :
    Tracked (adding versions b) (claims ++ [(b.lockId, .pending)]) := by
  have hadd : Tracked (adding versions b) claims :=
    h.add (fun a ha hid => absurd hid (hnew a ha)) (fun a ha hid => absurd hid (hnew a ha))
      (fun hs => by rw [hunsigned] at hs; cases hs) (fun p hp hid => absurd hid.symm (hclaims p hp))
  refine ⟨hadd.terms, hadd.signed, hadd.ticketed, ?_, ?_, ?_⟩
  · rw [List.map_append, List.nodup_append]
    refine ⟨h.alone, List.nodup_singleton _, ?_⟩
    intro x hx y hy hxy
    obtain ⟨p, hp, rfl⟩ := List.mem_map.mp hx
    rw [List.map_singleton, List.mem_singleton] at hy
    exact hclaims p hp (hxy.trans hy)
  · intro p hp
    rcases List.mem_append.mp hp with hp | hp
    · exact h.valid p hp
    · rw [List.mem_singleton] at hp
      subst hp
      trivial
  · intro p hp a ha hid
    rcases List.mem_append.mp hp with hp | hp
    · exact hadd.claimed p hp a ha hid
    · rw [List.mem_singleton] at hp
      subst hp
      rcases ha with ha | rfl
      · exact absurd hid (hnew a ha)
      · exact ⟨hunsigned, hhash⟩

variable {front back : List (Text × Claim)} {id : Text} {old : Claim}

theorem reclaim {new : Claim} (h : Tracked versions (front ++ (id, old) :: back))
    (hvalid : new.Valid) (hallows : ∀ b, versions b → b.lockId = id → old.Allows b → new.Allows b) :
    Tracked versions (front ++ (id, new) :: back) := by
  refine ⟨h.terms, h.signed, h.ticketed, ?_, ?_, ?_⟩
  · have halone := h.alone
    rw [List.map_append, List.map_cons] at halone ⊢
    exact halone
  · intro p hp
    rcases List.mem_append.mp hp with hp | hp
    · exact h.valid p (List.mem_append_left _ hp)
    · rcases List.mem_cons.mp hp with rfl | hp
      · exact hvalid
      · exact h.valid p (List.mem_append_right _ (List.mem_cons_of_mem _ hp))
  · intro p hp b hb hid
    rcases List.mem_append.mp hp with hp | hp
    · exact h.claimed p (List.mem_append_left _ hp) b hb hid
    · rcases List.mem_cons.mp hp with rfl | hp
      · have hold : (id, old) ∈ front ++ (id, old) :: back :=
          List.mem_append_right _ List.mem_cons_self
        obtain ⟨hsignature, hb'⟩ := h.claimed _ hold b hb hid
        exact ⟨hsignature, hallows b hb hid hb'⟩
      · exact h.claimed p (List.mem_append_right _ (List.mem_cons_of_mem _ hp)) b hb hid

/-- The claim on a lock is not on another one. -/
theorem others (h : Tracked versions (front ++ (id, old) :: back)) :
    ∀ p ∈ front ++ back, p.1 ≠ id := by
  have halone := h.alone
  rw [List.map_append, List.map_cons, List.nodup_middle, List.nodup_cons] at halone
  intro p hp heq
  apply halone.1
  rw [← List.map_append]
  exact List.mem_map.mpr ⟨p, hp, heq⟩

theorem drop (h : Tracked versions (front ++ (id, old) :: back)) :
    Tracked versions (front ++ back) :=
  h.mono (fun _ hb => hb) ((List.sublist_cons_self _ _).append_left front)

/-- Versions that are made of the ones that are there. -/
theorem laters (h : Tracked versions claims) (bonds : List Bond)
    (hbonds : ∀ c ∈ bonds, ∃ b, versions b ∧
      (c = b ∨ sameFelt b.ticket zeroFelt = true ∧ ∃ ticket, c = { b with ticket })) :
    Tracked (fun a => versions a ∨ a ∈ bonds) claims := by
  induction bonds with
  | nil => exact h.mono (fun a ha => ha.elim id fun hnil => by cases hnil) (List.Sublist.refl _)
  | cons c rest ih =>
    obtain ⟨b, hb, hc⟩ := hbonds c List.mem_cons_self
    have hrest := ih fun d hd => hbonds d (List.mem_cons_of_mem _ hd)
    refine (hrest.later (Or.inl hb) hc).mono (fun a ha => ?_) (List.Sublist.refl _)
    rcases ha with ha | ha
    · exact Or.inl (Or.inl ha)
    · rcases List.mem_cons.mp ha with rfl | ha
      · exact Or.inr rfl
      · exact Or.inl (Or.inr ha)

theorem confirm {lockTxHash : Text} (h : Tracked versions (front ++ (b.lockId, .pending) :: back))
    (hb : versions b) (hvalid : (Claim.confirmed ticket lockTxHash).Valid) :
    Tracked (adding versions { b with ticket, lockTxHash })
      (front ++ (b.lockId, .confirmed ticket lockTxHash) :: back) := by
  have hold : (b.lockId, Claim.pending) ∈ front ++ (b.lockId, .pending) :: back :=
    List.mem_append_right _ List.mem_cons_self
  have hunsigned := (h.claimed _ hold b hb rfl).1
  have hconfirmed := h.reclaim hvalid fun a _ _ hpending => Or.inl hpending
  refine hconfirmed.add (fun a ha hid => h.terms a b ha hb hid) ?_ ?_ ?_
  · intro a ha hid hsa hsb
    rw [hunsigned] at hsb
    cases hsb
  · intro hsb
    rw [hunsigned] at hsb
    cases hsb
  · intro p hp hid
    refine ⟨hunsigned, ?_⟩
    rcases List.mem_append.mp hp with hp | hp
    · exact absurd hid.symm (h.others p (List.mem_append_left _ hp))
    · rcases List.mem_cons.mp hp with rfl | hp
      · exact Or.inr ⟨rfl, rfl⟩
      · exact absurd hid.symm (h.others p (List.mem_append_right _ hp))

/-- A lock that is given up may be left with another transaction. -/
theorem abandon (hash : Text) (h : Tracked versions (front ++ (b.lockId, old) :: back))
    (hb : versions b) :
    Tracked (adding versions { b with lockTxHash := hash }) (front ++ back) := by
  have hold : (b.lockId, old) ∈ front ++ (b.lockId, old) :: back :=
    List.mem_append_right _ List.mem_cons_self
  have hunsigned := (h.claimed _ hold b hb rfl).1
  refine h.drop.add (fun a ha hid => h.terms a b ha hb hid) ?_ ?_ ?_
  · intro a ha hid hsa hsb
    rw [hunsigned] at hsb
    cases hsb
  · intro hsb
    rw [hunsigned] at hsb
    cases hsb
  · intro p hp hid
    exact absurd hid.symm (h.others p hp)

/-- A lock is signed in the version that was confirmed, and no longer being quoted. -/
theorem sign {lockTxHash : Text} (signature : Text)
    (h : Tracked versions (front ++ (b.lockId, .confirmed ticket lockTxHash) :: back))
    (hb : versions b) (hhash : b.lockTxHash = lockTxHash) :
    Tracked (adding versions { b with signature := some signature }) (front ++ back) := by
  have hold : (b.lockId, Claim.confirmed ticket lockTxHash) ∈
      front ++ (b.lockId, .confirmed ticket lockTxHash) :: back :=
    List.mem_append_right _ List.mem_cons_self
  obtain ⟨hzero, hnonzero⟩ := h.valid _ hold
  refine h.drop.add (fun a ha hid => h.terms a b ha hb hid) ?_ ?_ ?_
  · intro a ha hid hsa hsb
    have hunsigned := (h.claimed _ hold a ha hid).1
    rw [hunsigned] at hsa
    cases hsa
  · intro _
    rcases (h.claimed _ hold b hb rfl).2 with hb | ⟨-, hticket⟩
    · exact absurd (hhash.symm.trans hb) hnonzero
    · rw [← hticket] at hzero
      exact hzero
  · intro p hp hid
    exact absurd hid.symm (h.others p hp)

end Tracked

/-! ## Turns of an operation -/

def Phase.claim : Phase → Option Claim
  | .locking _ => some .pending
  | .commit (.confirm confirmed) _ | .commit (.sign confirmed _ _) _ | .signing confirmed =>
    some (.confirmed confirmed.ticket confirmed.lockTxHash)
  | .commit (.abandon _) _ => some .abandoned
  | _ => none

theorem Phase.claim_of_idle (h : p.idle = true) : p.claim = none := by
  cases p with
  | commit tx after =>
    cases tx with
    | confirm | abandon | sign => cases h
    | _ => rfl
  | locking | signing => cases h
  | _ => rfl

structure Confirmed (record confirmed : StoredLock) : Prop where
  bond : confirmed.bond =
    { record.bond with ticket := confirmed.ticket, lockTxHash := confirmed.lockTxHash }
  valid : (Claim.confirmed confirmed.ticket confirmed.lockTxHash).Valid

inductive Turn (locks : Locks) (p : Phase) : Phase → Prop
  | same : Turn locks p p
  | continues {q : Phase} (h : q.Continues (p.versions ++ locks.entries)) : Turn locks p q
  | confirming {record confirmed : StoredLock} (locking : p = .locking record)
      (h : Confirmed record confirmed) :
      Turn locks p (.commit (.confirm confirmed) (.confirmed confirmed))
  | abandoning {record : StoredLock} {why : LockFailure} (locking : p = .locking record) :
      Turn locks p (.commit (.abandon why) .finish)
  | writing {confirmed : StoredLock} {signature : Text} {quoteDigest : Digest}
      (signing : p = .signing confirmed) :
      Turn locks p (.commit (.sign confirmed signature quoteDigest) .finish)

variable {locks : Locks} {f : Flow} {config : Config} {now : Int} {append : Append}

theorem turn_of_read {q : Phase} (hp : p.versions = [r]) (h : q.Continues [r]) :
    Turn locks p q := by
  refine .continues (h.mono fun u hu => ?_)
  rw [hp]
  exact List.mem_append_left _ hu

theorem turn_of_none {q : Phase} (hidle : q.idle = true) (hversions : q.versions = []) :
    Turn locks p q := .continues (.nil hidle hversions)

theorem confirmedRecord_confirmed {lockId transactionHash : Text} {lock : OnChainLock}
    {c : StoredLock} (hr : IsVersion lockId r) (hfresh : r.items = .fresh)
    (h : confirmedRecord r ticket transactionHash lock now = .ok c) : Confirmed r c := by
  have hhash := (confirmedRecord_version hr hfresh h).2.2.2
  unfold confirmedRecord at h
  simp only [bind_ok, throwIf_ok, pure_ok, exists_const] at h
  obtain ⟨t, ht, hash, -, hnonzero, opened, hopened, confirmed, hconfirmed, -, rfl⟩ := h
  rw [not_or] at hnonzero
  have hversion : IsVersion lockId opened := hr.of_canonical hopened rfl
  have hbond : c.bond =
      { r.bond.normal with ticket := lowered t, lockTxHash := lowered hash } := by
    rw [lockStateFromChain_bond hversion hconfirmed, canonical_bond hopened]
    rfl
  have hlowered : c.ticket = lowered t := congrArg Bond.ticket hbond
  have hhash' : c.lockTxHash = lowered hash := congrArg Bond.lockTxHash hbond
  have hticket : c.ticket = t := by
    rw [hlowered, requireFeltText_ok ht]
    exact lowered_lowered ticket
  refine ⟨?_, ?_, hhash⟩
  · rw [hr.bond_normal] at hbond
    rw [hlowered, hhash']
    exact hbond
  · rw [hticket]
    have hzero : parseBigInt zeroFelt = some 0 := by decide
    unfold sameFelt
    rw [hzero]
    cases hparse : parseBigInt t with
    | none => rfl
    | some n =>
      refine decide_eq_false fun hn => hnonzero.1 ?_
      rw [hparse, hn]

theorem turn_lockAnswered {a : Answer} {lockId : Text} (hr : IsVersion lockId r)
    (hfresh : r.items = .fresh) : Turn locks (.locking r) (lockAnswered r now a) := by
  unfold lockAnswered
  split
  · split
    · rename_i confirmed hconfirmed
      exact .confirming rfl (confirmedRecord_confirmed hr hfresh hconfirmed)
    · exact .abandoning rfl
    · exact .abandoning rfl
  · exact .abandoning rfl
  · exact .abandoning rfl
  · exact .same

theorem turn_answer {a : Answer} (hf : f.Sound) : Turn locks f.phase (f.answer locks a).phase := by
  unfold Flow.Sound at hf
  unfold Flow.answer
  dsimp only
  split
  · rename_i record _ hphase
    rw [hphase] at hf ⊢
    exact turn_lockAnswered hf.1 hf.2
  · rename_i confirmed signature quoteDigest hphase
    rw [hphase]
    split
    · exact .writing rfl
    · exact turn_of_none rfl rfl
  · exact turn_of_none rfl rfl
  · rename_i record _ hphase
    rw [hphase] at hf ⊢
    exact turn_of_read rfl (continues_refreshed hf.1)
  · rename_i record _ hphase
    rw [hphase] at hf ⊢
    exact turn_of_read rfl continues_receiptRead
  · rename_i record _ _ hphase
    rw [hphase] at hf ⊢
    exact turn_of_read rfl (continues_unknownRead hf)
  · split <;> exact turn_of_none rfl rfl
  · exact .continues ((continues_beginReset locks).mono fun u hu => List.mem_append_right _ hu)
  · split <;> exact turn_of_none rfl rfl
  · rename_i record _ hphase
    rw [hphase] at hf ⊢
    exact turn_of_read rfl (continues_resetRead hf)
  · exact .continues continues_terminalRead
  · exact .same

theorem turn_advance : Turn locks f.phase (f.advance locks).phase ∧
    ((f.advance locks).lockId = f.lockId ∨ (f.advance locks).phase.idle = true) := by
  unfold Flow.advance
  split
  · exact ⟨turn_of_none rfl rfl, Or.inl rfl⟩
  · have hcontinues := @continues_beginRefresh ‹Text› f.now locks
    exact ⟨.continues (hcontinues.mono fun u hu => List.mem_append_right _ hu), Or.inr hcontinues.1⟩
  · exact ⟨turn_of_none rfl rfl, Or.inl rfl⟩
  · exact ⟨.same, Or.inl rfl⟩

theorem turn_hand : Turn locks f.phase f.hand.phase ∧ f.hand.lockId = f.lockId := by
  unfold Flow.hand
  split
  · exact ⟨turn_of_none rfl rfl, rfl⟩
  · exact ⟨.same, rfl⟩

/-- An operation that quotes no lock goes on, after its transaction, with what that has written. -/
theorem continues_committed {tx : LockTx} {after : After}
    {result : Except (Option MakerError) (Option StoredLock)}
    (hphase : f.phase = .commit tx after) (hidle : f.phase.idle = true)
    (hresult : ∀ r, result = .ok (some r) → r ∈ locks.entries) :
    (f.committed after result).phase.Continues locks.entries := by
  rw [hphase] at hidle
  have hread : ∀ (r : StoredLock) (q : Phase), result = .ok (some r) → q.Continues [r] →
      q.Continues locks.entries := fun r q hr hq => hq.mono fun u hu => by
    rw [List.mem_singleton.mp hu]
    exact hresult r hr
  unfold Flow.committed
  split
  · exact .nil rfl rfl
  · exact continues_proceed
  · exact hread _ _ rfl (continues_continueRefresh _)
  · exact .nil rfl rfl
  · exact hread _ _ rfl (continues_beginUnknown _)
  · exact .nil rfl rfl
  · exact .nil rfl rfl
  · exact .nil rfl rfl
  · exact .nil rfl rfl
  · simp [Phase.idle, After.quotes] at hidle
  · exact .nil rfl rfl
  · simp [Phase.idle, After.quotes] at hidle
  · exact .nil rfl rfl

end App20.Maker
