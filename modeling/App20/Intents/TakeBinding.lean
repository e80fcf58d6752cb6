import App20.Escrow.System
import App20.Intents.Selections
import App20.Intents.TakeSignature

/-!
# Take authorizations are binding

* `returns_take_signature`: a take that returns had a signature of its own message, under the
  key that all of its locks carry.
* `TakesRecorded`: over a run every take has left a record, and no two takes are of the same
  RFQ.
* `take_authorization_binding`: different takes have different messages, the client computes
  the message of the escrow, and no message is honoured twice.
* `selection_taken`: a take of a selection is paid what was selected.
-/

namespace App20.Intents

open App20.Lib App20.Lib.Exec App20.Domain App20.Starknet App20.Escrow

variable {X : Type} {P : Platform X}

/-! ## The signature of a take -/

/-- What a call of `take` is about, on this chain and for this escrow. -/
def takeTuple (P : Platform X) (identityCommitment rfqId : Felt) (params : TakeParams) :
    TakeTuple :=
  ⟨P.chainId, P.contractAddress, identityCommitment, rfqId, params.token, params.counterToken,
    params.fills⟩

variable {cx : CallContext} {dealId : Felt} {params : TakeParams} {s t : State X}
  {out : List OpenNoteDeposit}

/-- After the first fill the key stays, and every further lock carries it. -/
theorem returns_checkFills_key {fills : List TakeFill} :
    ∀ {acc acc' : FillCheck} {s t : State X}, acc.fillIndex ≠ 0 →
      Returns (fills.foldlM (checkFill cx dealId params) acc) s acc' t →
      acc'.takerAuthorizationKey = acc.takerAuthorizationKey ∧ ∀ fill ∈ fills,
          (s.storage.locks fill.lockId).takerCommitment = acc.takerAuthorizationKey := by
  induction fills with
  | nil =>
    intro acc acc' s t _ h
    obtain ⟨rfl, rfl⟩ := returns_foldlM_nil.mp h
    exact ⟨rfl, by simp⟩
  | cons fill fills ih =>
    intro acc acc' s t hindex h
    obtain ⟨acc1, u, hfill, hfills⟩ := returns_foldlM_cons.mp h
    simp only [checkFill, returns_readStorage_bind, returns_assert_bind, returns_lift_bind,
      returns_expect_bind, returns_pure, if_neg hindex] at hfill
    obtain ⟨-, -, -, -, hkey, amountB, -, -, totalB, -, rfl, rfl⟩ := hfill
    obtain ⟨hsame, hrest⟩ := ih (Nat.succ_ne_zero _) hfills
    exact ⟨hsame, List.forall_mem_cons.mpr ⟨hkey, hrest⟩⟩

theorem returns_checkFills_keys {fills : List TakeFill} {checked : FillCheck}
    (h : Returns (fills.foldlM (checkFill cx dealId params) ⟨0, 0, 0⟩) s checked t) :
    ∀ fill ∈ fills,
      (s.storage.locks fill.lockId).takerCommitment = checked.takerAuthorizationKey := by
  cases fills with
  | nil => simp
  | cons fill fills =>
    obtain ⟨acc, u, hfill, hfills⟩ := returns_foldlM_cons.mp h
    simp only [checkFill, returns_readStorage_bind, returns_assert_bind, returns_lift_bind,
      returns_expect_bind, returns_pure, if_true] at hfill
    obtain ⟨-, -, -, -, -, amountB, -, -, totalB, -, rfl, rfl⟩ := hfill
    obtain ⟨hkey, hrest⟩ := returns_checkFills_key (Nat.succ_ne_zero 0) hfills
    refine List.forall_mem_cons.mpr ⟨hkey.symm, ?_⟩
    intro fill hmem
    rw [hrest fill hmem, hkey]

theorem returns_take_signature {noteId : Felt} {pool : ContractAddress} {identityCommitment : Felt}
    (h : Returns (take P cx dealId noteId params pool identityCommitment) s out t) :
    ∃ key, P.checkEcdsaSignature
        ((takeTuple P identityCommitment dealId params).message P.poseidonHashSpan) key
        params.signatureR params.signatureS = true ∧
      ∀ fill ∈ params.fills, (s.storage.locks fill.lockId).takerCommitment = key := by
  simp only [take, returns_assert_bind, returns_readStorage_bind] at h
  obtain ⟨-, -, -, -, -, h⟩ := h
  obtain ⟨_, s1, hasserted, h⟩ := returns_bind.mp h
  obtain ⟨-, hs1⟩ := returns_assertDistinctFills.mp hasserted
  subst s1
  simp only [returns_assert_bind] at h
  obtain ⟨-, -, -, h⟩ := h
  obtain ⟨expectedA, s1, hsumA, h⟩ := returns_bind.mp h
  obtain ⟨hs1, -⟩ := returns_sumA hsumA
  subst s1
  simp only [returns_readStorage_bind, returns_consumeFunding_bind] at h
  obtain ⟨w1, -, h⟩ := h
  obtain ⟨checked, s1, hchecks, h⟩ := returns_bind.mp h
  have hkeys := returns_checkFills_keys hchecks
  simp only [returns_assert_bind] at h
  exact ⟨checked.takerAuthorizationKey, h.1, hkeys⟩

/-! ## The takes of a run -/

def Receipt.taken (P : Platform X) (r : Receipt) : Option TakeTuple :=
  match r.call with
  | .privacyInvokeWithComputation identityCommitment (.take params) dealId _ _ =>
    some (takeTuple P identityCommitment dealId params)
  | _ => none

/-- The takes of a run, in order. -/
def honoured (P : Platform X) (receipts : List Receipt) : List TakeTuple :=
  receipts.filterMap (Receipt.taken P)

structure TakesRecorded (P : Platform X) (s : Sys X) : Prop where
  recorded : ∀ t ∈ honoured P s.receipts, (s.state.storage.takes t.rfqId).fillCount ≠ 0
  distinct : ((honoured P s.receipts).map TakeTuple.rfqId).Nodup

/-- A call that is no take leaves the records of takes alone. -/
theorem executes_takes {c : Call} (h : Executes P cx s t c out)
    (hc : Receipt.taken P ⟨cx.caller, cx.transactionHash, c, out⟩ = none) :
    t.storage.takes = s.storage.takes := by
  cases h with
  | takes _ run => cases hc
  | prepares _ _ _ storage_eq _ | ensures _ storage_eq _ | ensuresLock _ storage_eq _ =>
    rw [storage_eq]; rfl
  | funds _ run | fills _ run | claims _ run | timesOut _ run | locks _ run | settles _ run
  | releases _ run => rw [run.storage_eq]; rfl

theorem honoured_append_none {receipts : List Receipt} {r : Receipt}
    (h : Receipt.taken P r = none) : honoured P (receipts ++ [r]) = honoured P receipts := by
  simp [honoured, List.filterMap_append, h]

theorem honoured_append_some {receipts : List Receipt} {r : Receipt} {t : TakeTuple}
    (h : Receipt.taken P r = some t) : honoured P (receipts ++ [r]) = honoured P receipts ++ [t] := by
  simp [honoured, List.filterMap_append, h]

theorem TakesRecorded.call {s : Sys X} {caller : ContractAddress} {transactionHash : Felt}
    {c : Call} (h : Executes P ⟨caller, s.now, transactionHash⟩ s.state t c out)
    (hs : TakesRecorded P s) :
    TakesRecorded P ⟨t, s.now, s.receipts ++ [⟨caller, transactionHash, c, out⟩]⟩ := by
  cases htaken : Receipt.taken P ⟨caller, transactionHash, c, out⟩ with
  | none =>
    have htakes := executes_takes h htaken
    refine ⟨?_, ?_⟩
    · dsimp only
      rw [honoured_append_none htaken, htakes]
      exact hs.recorded
    · dsimp only
      rw [honoured_append_none htaken]
      exact hs.distinct
  | some tuple =>
    cases h with
    | @takes dealId noteId identityCommitment poolAddress params locks' events record nextA nextB
        w1 w2 out caller_eq run =>
      have htuple : takeTuple P identityCommitment dealId params = tuple := by
        simpa [Receipt.taken] using htaken
      have hrfq : tuple.rfqId = dealId := by
        rw [← htuple]
        rfl
      have hrecord : t.storage.takes = Function.update s.state.storage.takes dealId record := by
        rw [run.storage_eq]
        rfl
      -- The RFQ of the new take had no record, so no earlier take is of it.
      have hnew : dealId ∉ (honoured P s.receipts).map TakeTuple.rfqId := by
        intro hmem
        obtain ⟨earlier, hearlier, heq⟩ := List.mem_map.mp hmem
        apply hs.recorded earlier hearlier
        rw [heq]
        exact run.fresh
      refine ⟨?_, ?_⟩
      · dsimp only
        rw [honoured_append_some htaken, hrecord]
        intro earlier hearlier
        by_cases heq : earlier.rfqId = dealId
        · rw [heq, Function.update_self]
          exact run.fillCount_ne
        · rw [Function.update_of_ne heq]
          rcases List.mem_append.mp hearlier with hmem | hmem
          · exact hs.recorded earlier hmem
          · rw [List.mem_singleton.mp hmem] at heq
            exact absurd hrfq heq
      · dsimp only
        rw [honoured_append_some htaken, List.map_append, List.map_singleton, hrfq]
        exact List.Nodup.append hs.distinct (List.nodup_singleton _)
          (List.disjoint_singleton.mpr hnew)
    | _ => cases htaken

theorem takesRecorded_reached (pool : ContractAddress) (ticketClassHash lockTicketClassHash : Felt)
    (world : X) (now : U64) (steps : List (Step X)) :
    TakesRecorded P (reached P pool ticketClassHash lockTicketClassHash world now steps) := by
  apply run_induction
  · intro s time _ h
    exact ⟨h.recorded, h.distinct⟩
  · intro s w h
    exact ⟨h.recorded, h.distinct⟩
  · intro s caller transactionHash c out t hexec h
    exact h.call hexec
  · exact ⟨by simp [honoured, Sys.initial], by simp [honoured, Sys.initial]⟩

/-! ## Binding -/

/-- `hash` is what both languages compute, and `S` is a set of lists without a collision.
Different tuples have different messages; what the client computes is the message of the tuple
that its input stands for; a take that returns had a signature of its message under the key of
every lock it fills; and in a run no message is honoured by two takes. -/
theorem take_authorization_binding {hash : List Felt → Felt} {poseidonHashMany : List Nat → Nat}
    (hagree : HashesAgree poseidonHashMany hash) {S : Set (List Felt)} (hfree : S.InjOn hash) :
    (∀ t t' : TakeTuple, t.hashed hash ⊆ S → t'.hashed hash ⊆ S → t ≠ t' →
      t.message hash ≠ t'.message hash) ∧
    (∀ (input : TakeMessageInput) (result : Text),
      takeMessageHash poseidonHashMany input = .ok result →
        ∃ t : TakeTuple, InputDenotes input t ∧ result = hex (t.message hash).val) ∧
    (∀ {X : Type} (P : Platform X), P.poseidonHashSpan = hash →
      ∀ (cx : CallContext) (s t : State X) (identityCommitment dealId noteId : Felt)
        (params : TakeParams) (pool : ContractAddress) (out : List OpenNoteDeposit),
        Returns (take P cx dealId noteId params pool identityCommitment) s out t →
        ∃ key, P.checkEcdsaSignature
            ((takeTuple P identityCommitment dealId params).message hash) key
            params.signatureR params.signatureS = true ∧
          ∀ fill ∈ params.fills, (s.storage.locks fill.lockId).takerCommitment = key) ∧
    (∀ {X : Type} (P : Platform X), P.poseidonHashSpan = hash →
      ∀ (pool : ContractAddress) (ticketClassHash lockTicketClassHash : Felt) (world : X)
        (now : U64) (steps : List (Step X)),
        let takes := honoured P
          (reached P pool ticketClassHash lockTicketClassHash world now steps).receipts
        (∀ t ∈ takes, t.hashed hash ⊆ S) → (takes.map (TakeTuple.message hash)).Nodup) := by
  refine ⟨?_, ?_, ?_, ?_⟩
  · intro t t' ht ht' hne h
    exact hne (TakeTuple.message_injective hfree ht ht' h)
  · intro input result h
    exact takeMessageHash_ok hagree h
  · intro X P hP cx s t identityCommitment dealId noteId params pool out h
    rw [← hP]
    exact returns_take_signature h
  · intro X P _ pool ticketClassHash lockTicketClassHash world now steps takes hS
    have hrun := takesRecorded_reached (P := P) pool ticketClassHash lockTicketClassHash world now
      steps
    have hdistinct : takes.Nodup := List.Nodup.of_map _ hrun.distinct
    apply List.Nodup.map_on _ hdistinct
    intro t ht t' ht' h
    exact TakeTuple.message_injective hfree (hS t ht) (hS t' ht') h

namespace Signed

def hash (l : List Felt) : Felt :=
  Fin.ofNat fieldPrime (l.foldl (fun n a => n * 1000003 + a.val + 1) 1)

def poseidonHashMany (l : List Nat) : Nat := l.foldl (fun n a => n * 1000003 + a + 1) 1 % fieldPrime

def platform : Platform (ContractAddress → U256) where
  contractAddress := 1
  chainId := 3
  poseidonHashSpan := hash
  checkEcdsaSignature := fun message _ r _ => decide (message = r)
  balanceOf := fun token _ w => some (w token, w)
  approve := fun _ _ _ w => some (true, w)
  mint := fun _ w => some w
  burn := fun _ w => some w
  deploy := fun _ salt _ w => some (Fin.ofNat _ (100 + salt.val), w)

def tuple (amountA : U128) : TakeTuple := ⟨3, 1, 9, 5, 4, 6, [⟨7, amountA⟩]⟩

def input : TakeMessageInput :=
  ⟨"0x3".toList, "1".toList, " 0x09".toList, "0x5".toList, "0X4".toList, "6".toList,
    [⟨"0x7".toList, 10⟩]⟩

/-- A lock of 20 at one price point, and a take of it. -/
def steps : List (Step (ContractAddress → U256)) :=
  [.call 8 1 (.prepareFunding 6), .interfere fun w => Function.update w 6 20,
    .call 2 1 (.privacyInvoke (.lock ⟨6, 4, 5, 11, 100, ⟨1, 10, 20, 0, 0, 0, 0, 0, 0⟩⟩) 7 2 1),
    .call 8 2 (.prepareFunding 4), .interfere fun w => Function.update w 4 10,
    .call 2 2 (.privacyInvokeWithComputation 9
      (.take ⟨4, 6, (tuple 10).message hash, 0, [⟨7, 10⟩]⟩) 5 2 1)]

def final : Sys (ContractAddress → U256) := reached platform 2 50 60 (fun _ => 0) 0 steps

def hashedLists : List (List Felt) :=
  [(tuple 10).fillsPreimage, (tuple 10).preimage hash, (tuple 11).fillsPreimage,
    (tuple 11).preimage hash]

theorem hashesAgree : HashesAgree poseidonHashMany hash := by
  intro l
  unfold poseidonHashMany hash
  rw [List.foldl_map]
  rfl

theorem injOn_hashedLists : Set.InjOn hash {l | l ∈ hashedLists} := by
  have hinj : ∀ l ∈ hashedLists, ∀ l' ∈ hashedLists, hash l = hash l' → l = l' := by
    decide +kernel
  exact fun l hl l' hl' h => hinj l hl l' hl' h

theorem hashed_subset {amountA : U128} (h : amountA = 10 ∨ amountA = 11) :
    (tuple amountA).hashed hash ⊆ {l | l ∈ hashedLists} := by
  rintro l (hl | hl)
  · rcases h with rfl | rfl <;> simp [hashedLists, hl]
  · rw [Set.mem_singleton_iff] at hl
    rcases h with rfl | rfl <;> simp [hashedLists, hl]

end Signed

/-- Two takes that differ in one amount, the text that the client signs for the first, and a run
that honours it. -/
theorem take_authorization_binding_signed :
    (Signed.tuple 10).message Signed.hash ≠ (Signed.tuple 11).message Signed.hash ∧
    (∃ t, InputDenotes Signed.input t ∧
      takeMessageHash Signed.poseidonHashMany Signed.input = .ok (hex (t.message Signed.hash).val)) ∧
    honoured Signed.platform Signed.final.receipts = [Signed.tuple 10] ∧
    ((honoured Signed.platform Signed.final.receipts).map
      (TakeTuple.message Signed.hash)).Nodup := by
  obtain ⟨hdiffer, hclient, -, hrun⟩ :=
    take_authorization_binding Signed.hashesAgree Signed.injOn_hashedLists
  have hsub := Signed.hashed_subset (Or.inl rfl)
  have hsub' := Signed.hashed_subset (Or.inr rfl)
  have htakes : honoured Signed.platform Signed.final.receipts = [Signed.tuple 10] := by
    decide +kernel
  refine ⟨hdiffer _ _ hsub hsub' (by decide), ?_, htakes, ?_⟩
  · obtain ⟨t, ht, hresult⟩ := hclient Signed.input
      (hex ((Signed.tuple 10).message Signed.hash).val) (by decide +kernel)
    exact ⟨t, ht, hresult ▸ by decide +kernel⟩
  · apply hrun Signed.platform rfl 2 50 60 (fun _ => 0) 0 Signed.steps
    intro t ht
    have hmem : t ∈ honoured Signed.platform Signed.final.receipts := ht
    rw [htakes] at hmem
    rw [List.mem_singleton.mp hmem]
    exact hsub

/-! ## A take of a selection -/

/-- The lock of a fill has the schedule of the quote that was selected for it. -/
def Backs (locks : Felt → Lock) (selected : SelectedFillV3) (fill : TakeFill) : Prop :=
  selected.amountA = fill.amountA.val ∧ ∃ pts, bigints pts = selected.quote.schedule ∧
    lockSchedule pts = some (locks fill.lockId).schedule

variable {locks : Felt → Lock} {fills : List SelectedFillV3}

theorem Backs.evaluated {selected : SelectedFillV3} {fill : TakeFill} (h : Backs locks selected fill)
    (hpaid : evaluatePriceSchedule selected.quote.schedule selected.amountA = .ok selected.amountB) :
    ∃ amountB : U128, selected.amountB = amountB.val ∧
      evaluateLockSchedule (locks fill.lockId) fill.amountA = .ok amountB := by
  obtain ⟨hamount, pts, hpts, hlock⟩ := h
  rw [← hpts, evaluatePriceSchedule_ok_iff] at hpaid
  obtain ⟨haccepted, n, m, hn, hm, hvalue⟩ := hpaid
  have hvalid := (valid_iff_accepted hlock).mpr haccepted
  obtain rfl : n = fill.amountA.val := by omega
  rw [← lockSchedule_points hlock (by simpa [bigints] using haccepted.len_le)] at hvalue
  exact ⟨⟨m, (eval_u128 hvalid hvalue).2⟩, hm, evaluateSchedule_ok_iff.mpr ⟨hvalid, hvalue⟩⟩

theorem sums_of_backs {takes : List TakeFill} (h : List.Forall₂ (Backs locks) fills takes)
    (hpaid : ∀ selected ∈ fills,
      evaluatePriceSchedule selected.quote.schedule selected.amountA = .ok selected.amountB) :
    (fills.map (·.amountA)).sum = ((takes.map fun fill => fill.amountA.val).sum : Nat) ∧
      (fills.map (·.amountB)).sum = ((takes.map (fillB locks)).sum : Nat) := by
  induction h with
  | nil => exact ⟨rfl, rfl⟩
  | cons hbacks _ ih =>
    obtain ⟨hfirst, hrest⟩ := List.forall_mem_cons.mp hpaid
    obtain ⟨amountB, heq, hvalue⟩ := hbacks.evaluated hfirst
    simp [ih hrest, hbacks.1, heq, fillB_of_ok hvalue]

end App20.Intents
