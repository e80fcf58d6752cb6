import App20.Intents.QuoteV3
import App20.Maker.LockRuns

/-!
# Quotes of locks

The quote that a maker node signs is made of the record of its lock, and made again when the RFQ is
repeated. What the operations on a lock make of the fields of its quote:

* `edit_bond`: a transaction keeps them, or belongs to the operation that quotes the lock.
* `Phase.Continues`: so does what an operation has read when it goes on.
-/

namespace App20.Maker

open App20.Lib App20.Lib.Exec App20.Domain App20.Intents

/-! ## The quote of a record -/

def unsignedQuoteV3For (record : StoredLock) (config : Config) : UnsignedSolverQuoteV3 where
  domain := quoteV3Domain
  version := 3
  solverId := config.makerId
  quoteKeyId := config.solverKey
  nonce := record.nonce
  pool := config.pool
  helper := config.helper
  escrowAddress := config.helper
  rfqDigest := record.rfqDigest
  rfqFelt := record.rfqFelt
  sellToken := record.tokenA
  buyToken := record.tokenB
  schedule := record.schedule
  lockId := record.lockId
  lockTicket := record.ticket
  lockTransactionHash := record.lockTxHash
  lockExpiresAt := record.expiry
  spreadBps := record.spreadBps
  pricingProvenance := record.pricingProvenance
  quotedAt := record.quotedAt
  quoteExpiresAt := record.expiry

def quoteFor (config : Config) (record : StoredLock) (signature : Text) : SolverQuoteV3 :=
  ⟨unsignedQuoteV3For record config, signature⟩

/-! ## The fields of a quote -/

/-- What is fixed when a lock is made. -/
structure QuoteTerms where
  rfqDigest : Text
  rfqFelt : Text
  tokenA : Text
  tokenB : Text
  schedule : List PriceSchedulePoint
  expiry : Int
  nonce : Text
  quotedAt : Int
  spreadBps : Int
  pricingProvenance : Text

/-- The fields of a record that its quote is made of. -/
@[ext]
structure Bond where
  lockId : Text
  terms : QuoteTerms
  ticket : Text
  lockTxHash : Text
  signature : Option Text

def StoredLock.bond (r : StoredLock) : Bond where
  lockId := r.lockId
  terms := ⟨r.rfqDigest, r.rfqFelt, r.tokenA, r.tokenB, r.schedule, r.expiry, r.nonce, r.quotedAt,
    r.spreadBps, r.pricingProvenance⟩
  ticket := r.ticket
  lockTxHash := r.lockTxHash
  signature := r.signature

/-- The quote that is made of these fields. -/
def Bond.quote (config : Config) (b : Bond) : SolverQuoteV3 where
  domain := quoteV3Domain
  version := 3
  solverId := config.makerId
  quoteKeyId := config.solverKey
  nonce := b.terms.nonce
  pool := config.pool
  helper := config.helper
  escrowAddress := config.helper
  rfqDigest := b.terms.rfqDigest
  rfqFelt := b.terms.rfqFelt
  sellToken := b.terms.tokenA
  buyToken := b.terms.tokenB
  schedule := b.terms.schedule
  lockId := b.lockId
  lockTicket := b.ticket
  lockTransactionHash := b.lockTxHash
  lockExpiresAt := b.terms.expiry
  spreadBps := b.terms.spreadBps
  pricingProvenance := b.terms.pricingProvenance
  quotedAt := b.terms.quotedAt
  quoteExpiresAt := b.terms.expiry
  signature := b.signature.getD []

/-- The quote of a record depends on nothing else. -/
theorem quoteFor_eq (config : Config) (r : StoredLock) (signature : Text) :
    quoteFor config r signature = Bond.quote config { r.bond with signature := some signature } :=
  rfl

def QuoteTerms.normal (t : QuoteTerms) : QuoteTerms :=
  { t with
    rfqDigest := lowered t.rfqDigest, rfqFelt := lowered t.rfqFelt, tokenA := lowered t.tokenA
    tokenB := lowered t.tokenB, nonce := lowered t.nonce
    pricingProvenance := trim t.pricingProvenance }

def Bond.normal (b : Bond) : Bond where
  lockId := lowered b.lockId
  terms := b.terms.normal
  ticket := lowered b.ticket
  lockTxHash := lowered b.lockTxHash
  signature := b.signature.map trim

theorem normal_bond (r : StoredLock) : r.normal.bond = r.bond.normal := rfl

theorem canonical_bond {x c : StoredLock} (h : canonicalStoredLock x = .ok c) :
    c.bond = x.bond.normal := by
  rw [(canonicalStoredLock_ok h).1, normal_bond]

variable {lockId : Text} {r c x : StoredLock} {now : Int}

theorem IsVersion.bond_normal (h : IsVersion lockId r) : r.bond.normal = r.bond := by
  rw [← normal_bond, h.normal]

/-- A new version of what was made of a version without a change of these fields. -/
theorem IsVersion.bond_next (hr : IsVersion lockId r) (h : canonicalStoredLock x = .ok c)
    (hx : x.bond = r.bond) : c.bond = r.bond := by
  rw [canonical_bond h, hx, hr.bond_normal]

/-! ## What new versions keep -/

variable {chain : OnChainLock} {u : StoredLock} {p : Phase} {sources : List StoredLock}

theorem lockStateFromChain_bond (hr : IsVersion lockId r)
    (h : lockStateFromChain r chain now = .ok c) : c.bond = r.bond := by
  unfold lockStateFromChain at h
  obtain ⟨bound, -, h⟩ := bind_ok.mp h
  exact hr.bond_next h rfl

theorem quarantinedLock_bond (hr : IsVersion lockId r) (h : quarantinedLock r now = .ok c) :
    c.bond = r.bond := by
  unfold quarantinedLock at h
  exact hr.bond_next h rfl

theorem lockWithReconciliationFailure_bond {pending : Pending}
    (h : lockWithReconciliationFailure x now pending = .ok c) : c.bond = x.bond.normal := by
  unfold lockWithReconciliationFailure at h
  dsimp only at h
  split at h
  · rw [canonical_bond h]
    simp only [StoredLock.bond]
  · rw [canonical_bond h]
    simp only [StoredLock.bond]

theorem terminalRecord_bond {target : V3ReconciliationTarget} {authorityDigest : Text}
    (hr : IsVersion lockId r) (h : terminalRecord r target authorityDigest chain now = .ok c) :
    c.bond = r.bond := by
  unfold terminalRecord at h
  obtain ⟨reconciled, hreconciled, h⟩ := bind_ok.mp h
  have hversion := (reconciledRecord_version hr hreconciled).1
  have hsame : reconciled.bond = r.bond := by
    unfold reconciledRecord at hreconciled
    split at hreconciled
    · cases hreconciled
      rfl
    · exact lockStateFromChain_bond hr hreconciled
  rw [← hsame]
  exact hversion.bond_next h rfl

theorem persistedVersion_bond {a : SettlementAttempt} {transactionHash : Text} :
    (persistedVersion r a transactionHash).bond = r.bond := by
  unfold persistedVersion
  cases a.action <;> rfl

/-- What a transaction makes of the fields of the version that it finds. -/
def LockTx.Binds (before after : Bond) : LockTx → Prop
  | .confirm confirmed => after = confirmed.bond
  | .sign confirmed signature _ =>
    before.lockTxHash = confirmed.lockTxHash ∧ after = { before with signature := some signature }
  | .refresh _ exact => after = exact.bond
  | .abandon _ => ∃ hash, after = { before with lockTxHash := hash }
  | _ => after = before

theorem edit_bond {tx : LockTx} {w : LockWrite} (hr : IsVersion lockId r)
    (h : tx.edit lockId now (some r) = .ok w) (hc : w.written = some c) :
    tx.Binds r.bond c.bond := by
  cases tx with
  | confirm confirmed =>
    unfold LockTx.edit at h
    dsimp only at h
    split at h
    · cases h
      cases hc
      rfl
    · cases h
  | abandon why =>
    cases why with
    | reverted =>
      cases h
      cases hc
    | contradiction =>
      obtain ⟨c, hnext, rfl⟩ := map_ok.mp h
      cases hc
      exact ⟨r.lockTxHash, quarantinedLock_bond hr hnext⟩
    | pending transactionHash =>
      obtain ⟨c, hnext, rfl⟩ := map_ok.mp h
      cases hc
      have hbond : c.bond =
          { r.bond.normal with lockTxHash := lowered (transactionHash.getD r.lockTxHash) } :=
        lockWithReconciliationFailure_bond hnext
      rw [hr.bond_normal] at hbond
      exact ⟨_, hbond⟩
  | sign confirmed signature quoteDigest =>
    unfold LockTx.edit at h
    dsimp only at h
    split at h
    · cases h
    · rename_i hsame
      rw [not_or, not_not] at hsame
      cases h
      cases hc
      exact ⟨hsame.2, rfl⟩
  | convert action | submit action =>
    unfold LockTx.edit at h
    rcases unlessTerminal_ok h with rfl | ⟨_, c', hcurrent, -, hnext, rfl⟩
    · cases hc
    · cases hcurrent
      cases hc
      exact hr.bond_next hnext rfl
  | failure pending clears =>
    unfold LockTx.edit at h
    rcases unlessTerminal_ok h with rfl | ⟨_, c', hcurrent, -, hnext, rfl⟩
    · cases hc
    · cases hcurrent
      cases hc
      have hsame : (if clears.isSome = true then { r with settlementAttempt := none } else r).bond =
          r.bond := by
        split <;> rfl
      show c.bond = r.bond
      rw [lockWithReconciliationFailure_bond hnext, hsame, hr.bond_normal]
  | quarantine =>
    unfold LockTx.edit at h
    dsimp only at h
    split at h
    · obtain ⟨c, hnext, rfl⟩ := map_ok.mp h
      cases hc
      exact quarantinedLock_bond hr hnext
    · cases h
      cases hc
  | refresh _ exact =>
    unfold LockTx.edit at h
    rcases unlessTerminal_ok h with rfl | ⟨_, c', -, -, hnext, rfl⟩
    · cases hc
    · cases hc
      cases hnext
      rfl
  | persist action attempt transactionHash =>
    unfold LockTx.edit at h
    dsimp only at h
    split at h
    · cases h
      cases hc
    · split at h
      · obtain ⟨c, hnext, rfl⟩ := map_ok.mp h
        cases hc
        exact hr.bond_next hnext persistedVersion_bond
      · cases h
        cases hc
  | resolve reason =>
    unfold LockTx.edit at h
    dsimp only at h
    split at h
    · obtain ⟨c, hnext, rfl⟩ := map_ok.mp h
      cases hc
      exact hr.bond_next hnext rfl
    · cases h
  | terminal target authorityDigest chain =>
    unfold LockTx.edit at h
    dsimp only at h
    split at h
    · obtain ⟨c, hnext, rfl⟩ := map_ok.mp h
      cases hc
      exact quarantinedLock_bond hr hnext
    · obtain ⟨c, hnext, rfl⟩ := map_ok.mp h
      cases hc
      exact terminalRecord_bond hr hnext

/-! ## What an operation has read -/

def zeroFelt : Text := "0x0".toList

/-- A version made of an earlier one outside of a quote: a lock that is found on the chain gets its
ticket there. -/
def Later (u v : StoredLock) : Prop :=
  v.bond = u.bond ∨ sameFelt u.ticket zeroFelt = true ∧ ∃ ticket, v.bond = { u.bond with ticket }

theorem Later.refl (u : StoredLock) : Later u u := Or.inl rfl

theorem Later.same_lock {v : StoredLock} (h : Later u v) : v.lockId = u.lockId := by
  rcases h with hbond | ⟨-, ticket, hbond⟩
  · exact congrArg Bond.lockId hbond
  · exact congrArg Bond.lockId hbond

def LockTx.versions : LockTx → List StoredLock
  | .confirm confirmed | .sign confirmed _ _ => [confirmed]
  | .refresh _ exact => [exact]
  | _ => []

/-- The versions that an operation may still write, or make the next version of. -/
def Phase.versions : Phase → List StoredLock
  | .commit tx _ => tx.versions
  | .locking record | .signing record | .reading record | .receipt record | .unknown record _
  | .resetting record => [record]
  | .done | .listing | .next | .handing _ _ _ _ | .handed _ _ _ | .reconciling _ _ => []

inductive Phase.Quoting : Phase → Prop
  | locking {record : StoredLock} : Phase.Quoting (.locking record)
  | confirming {confirmed : StoredLock} :
      Phase.Quoting (.commit (.confirm confirmed) (.confirmed confirmed))
  | abandoning {why : LockFailure} : Phase.Quoting (.commit (.abandon why) .finish)
  | signing {confirmed : StoredLock} : Phase.Quoting (.signing confirmed)
  | writing {confirmed : StoredLock} {signature : Text} {quoteDigest : Digest} :
      Phase.Quoting (.commit (.sign confirmed signature quoteDigest) .finish)

def LockTx.quotes : LockTx → Bool
  | .confirm _ | .abandon _ | .sign _ _ _ => true
  | _ => false

def After.quotes : After → Bool
  | .confirmed _ => true
  | _ => false

def Phase.idle : Phase → Bool
  | .commit tx after => !tx.quotes && !after.quotes
  | .locking _ | .signing _ => false
  | _ => true

def Phase.Regular (lockId : Text) (p : Phase) : Prop :=
  p.idle = true ∨ p.Quoting ∧ ∀ v ∈ p.versions, v.lockId = lockId

/-- An operation goes on with versions that are made of one of these, and quotes no lock. -/
def Phase.Continues (p : Phase) (sources : List StoredLock) : Prop :=
  p.idle = true ∧ ∀ v ∈ p.versions, ∃ u ∈ sources, Later u v

theorem Phase.Continues.nil (hidle : p.idle = true) (hversions : p.versions = []) :
    p.Continues sources := ⟨hidle, by simp [hversions]⟩

theorem Phase.Continues.single {v : StoredLock} (hidle : p.idle = true)
    (hversions : p.versions = [v]) (h : Later u v) : p.Continues [u] := by
  refine ⟨hidle, fun x hx => ?_⟩
  rw [hversions, List.mem_singleton] at hx
  subst hx
  exact ⟨u, List.mem_singleton_self u, h⟩

theorem Phase.Continues.mono {sources' : List StoredLock} (h : p.Continues sources)
    (hsub : ∀ u ∈ sources, u ∈ sources') : p.Continues sources' := by
  refine ⟨h.1, fun v hv => ?_⟩
  obtain ⟨u, hu, hlater⟩ := h.2 v hv
  exact ⟨u, hsub u hu, hlater⟩

theorem continues_beginUnknown (r : StoredLock) : (beginUnknown r).Continues [r] := by
  unfold beginUnknown
  split
  · exact .single rfl rfl (.refl r)
  · exact .single rfl rfl (.refl r)

theorem continues_continueRefresh (r : StoredLock) : (continueRefresh r).Continues [r] := by
  unfold continueRefresh
  split
  · exact continues_beginUnknown r
  · exact .single rfl rfl (.refl r)

theorem continues_beginRefresh (locks : Locks) :
    (beginRefresh locks lockId now).Continues locks.entries := by
  unfold beginRefresh
  split
  · exact .nil rfl rfl
  · rename_i record hrecord
    split
    · exact .nil rfl rfl
    · split
      · split
        · exact .nil rfl rfl
        · exact .nil rfl rfl
      · refine (continues_continueRefresh record).mono fun u hu => ?_
        rw [List.mem_singleton.mp hu]
        exact (Table.get?_eq_some.mp hrecord).1

theorem continues_beginReset (locks : Locks) :
    (beginReset locks lockId).Continues locks.entries := by
  unfold beginReset
  split
  · exact .nil rfl rfl
  · rename_i record hrecord
    split
    · refine Phase.Continues.mono (.single rfl rfl (.refl record)) fun u hu => ?_
      rw [List.mem_singleton.mp hu]
      exact (Table.get?_eq_some.mp hrecord).1
    · exact .nil rfl rfl

theorem continues_writeExact {read exact : StoredLock} {retry : Bool} (h : Later u exact) :
    (writeExact read exact chain retry).Continues [u] := by
  refine .single ?_ rfl h
  unfold writeExact
  split <;> rfl

theorem refreshCandidate_later (hr : IsVersion lockId r)
    (h : refreshCandidate r chain now = .ok c) : Later r c := by
  unfold refreshCandidate at h
  split at h
  · rename_i hfound
    refine Or.inr ⟨hfound.2.1, lowered chain.ticket, ?_⟩
    have hbond : c.bond = { r.bond.normal with ticket := lowered chain.ticket } := canonical_bond h
    rwa [hr.bond_normal] at hbond
  · cases h
    exact .refl r

theorem continues_refreshed {chain : Option OnChainLock} (hr : IsVersion lockId r) :
    (refreshed r chain now).Continues [r] := by
  unfold refreshed
  split
  · exact .nil rfl rfl
  · split
    · exact .nil rfl rfl
    · split
      · rename_i e _
        cases e <;> exact .nil rfl rfl
      · rename_i candidate bound h
        simp only [bind_ok, pure_ok, Prod.mk.injEq] at h
        obtain ⟨_, hcandidate, _, -, rfl, rfl⟩ := h
        split
        · exact .nil rfl rfl
        · rename_i exact hexact
          have hversion := (refreshCandidate_version hr hcandidate).1
          have hlater := refreshCandidate_later hr hcandidate
          apply continues_writeExact
          unfold Later
          rwa [lockStateFromChain_bond hversion hexact]

theorem continues_receiptRead {receipt : Option MakerTransactionReceipt} :
    (receiptRead r receipt).Continues [r] := by
  unfold receiptRead
  split
  · split
    · exact .single rfl rfl (.refl r)
    · exact .nil rfl rfl
    · exact .single rfl rfl (.refl r)
  · exact .single rfl rfl (.refl r)

theorem continues_unknownRead {receipt : Option ReceiptStatus} {chain : Option OnChainLock}
    (hr : IsVersion lockId r) : (unknownRead r receipt chain now).Continues [r] := by
  unfold unknownRead
  split
  · exact .nil rfl rfl
  · split <;> exact .nil rfl rfl
  · dsimp only
    split
    · exact .nil rfl rfl
    · split
      · split
        · exact .nil rfl rfl
        · rename_i exact hexact
          exact continues_writeExact (Or.inl (lockStateFromChain_bond hr hexact))
      · exact .nil rfl rfl

theorem continues_resetRead {chain : Option OnChainLock} (hr : IsVersion lockId r) :
    (resetRead r chain now).Continues [r] := by
  unfold resetRead
  split
  · exact .nil rfl rfl
  · exact .nil rfl rfl
  · split
    · exact .nil rfl rfl
    · split
      · exact .nil rfl rfl
      · rename_i exact hexact
        exact continues_writeExact (Or.inl (lockStateFromChain_bond hr hexact))

theorem continues_terminalRead {request : V3TerminalRequest} {chain : Option OnChainLock} :
    (terminalRead request r chain).Continues sources := by
  unfold terminalRead
  dsimp only
  split
  · exact .nil rfl rfl
  · exact .nil rfl rfl
  · split <;> exact .nil rfl rfl

theorem continues_beginTerminal {request : V3TerminalRequest} {locks : Locks} :
    (beginTerminal locks request).Continues sources := by
  unfold beginTerminal
  split
  · exact .nil rfl rfl
  · rename_i initial _
    dsimp only
    have hbegin : (if initial.state = .quarantined then Phase.done
        else if sameV3Binding initial request.target then .reconciling request initial
        else .commit .quarantine .finish).Continues sources := by
      split
      · exact .nil rfl rfl
      · split <;> exact .nil rfl rfl
    split
    · exact hbegin
    · split
      · exact .nil rfl rfl
      · split
        · split <;> exact .nil rfl rfl
        · exact hbegin

theorem continues_submitLeft : (submitLeft r chain).1.Continues sources := by
  unfold submitLeft
  split <;> exact .nil rfl rfl

theorem continues_proceed {stage : Stage} : (proceed stage r chain now).1.Continues sources := by
  unfold proceed
  split
  · exact .nil rfl rfl
  · split
    · exact .nil rfl rfl
    · split
      · exact continues_submitLeft
      · exact .nil rfl rfl
  · exact continues_submitLeft
  · exact .nil rfl rfl

end App20.Maker
