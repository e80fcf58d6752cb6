import App20.Confidential.Bundles
import App20.Confidential.Review
import App20.Domain.Decimal
import Mathlib.Data.ZMod.Defs

/-!
# The wallet against the escrow

A normalised agreement writes the terms and the configuration of one escrow, and the array that
the wallets sign stands for one authorisation. The wallet and the account accept the same
operations, but for the refunds whose outputs no `u128` holds.

* `normal_of_create`: the texts of an agreement are those of the values that the account sees.
* `contract_ok_iff`, `wallet_ok_iff`: what each of the two accepts.
* `review_agrees_iff`: when they agree.
-/

namespace App20.Confidential

open App20.Lib App20.Lib.Exec App20.Domain App20.Starknet

/-! ## Numbers and their texts -/

variable {n : Nat} {value t : Text} {a : ConfidentialAgreement} {cx : CallContext} {s : Storage}
  {inner : List Felt}

theorem isDecDigit_toDigits : (Nat.toDigits 10 n).all isDecDigit = true := by
  rw [List.all_eq_true]
  intro c hc
  have hdigit := Nat.isDigit_of_mem_toDigits (by omega) (by omega) hc
  simp only [Char.isDigit, Bool.and_eq_true, decide_eq_true_eq] at hdigit
  exact decide_eq_true ⟨UInt32.le_iff_toNat_le.mp hdigit.1, UInt32.le_iff_toNat_le.mp hdigit.2⟩

theorem isHexDigit_toDigits : (Nat.toDigits 16 n).all isHexDigit = true := by
  rw [List.all_eq_true]
  intro c hc
  exact isHexDigit_of_mem_toDigits hc

theorem decimal_nat (n : Nat) : decimal (n : Int) = Nat.toDigits 10 n := by
  unfold decimal
  rw [if_neg (by omega), Int.natAbs_natCast]

theorem readFelt_hex (n : Nat) : readFelt (hex n) = some n := by
  unfold readFelt hex
  simp only
  rw [if_pos ⟨Nat.toDigits_ne_nil, isHexDigit_toDigits⟩, ofDigits_toDigits]

theorem readFelt_digits {ds : Text} (hne : ds ≠ []) (hall : ds.all isDecDigit = true) :
    readFelt ds = some (ofDigits 10 ds) := by
  unfold readFelt
  split
  · -- the marker is no digit
    simp only [List.all_cons, Bool.and_eq_true] at hall
    exact absurd hall.2.1 (by decide)
  · rw [if_pos ⟨hne, hall⟩]

theorem parseBigInt_digits {ds : Text} (hne : ds ≠ []) (hall : ds.all isDecDigit = true) :
    parseBigInt ds = some (ofDigits 10 ds : Int) := by
  have hdigits := List.all_eq_true.mp hall
  have htrim : trim ds = ds := by
    refine trim_eq_self (Trimmed.of_forall fun c hc => ?_)
    have hbounds := of_decide_eq_true (hdigits c hc)
    unfold isSpace
    exact decide_eq_false (by omega)
  have hten : digitsOf 10 ds = some (ofDigits 10 ds : Int) := by
    unfold digitsOf
    rw [if_pos]
    refine ⟨hne, List.all_eq_true.mpr fun c hc => ?_⟩
    have hbounds := of_decide_eq_true (hdigits c hc)
    have hvalue := (digitChar_digitValue (hdigits c hc)).1
    rw [Bool.and_eq_true]
    exact ⟨decide_eq_true (Or.inl hbounds), decide_eq_true hvalue⟩
  unfold parseBigInt
  rw [htrim]
  split
  · exact absurd rfl hne
  -- neither a marker nor a sign is a digit
  all_goals first | exact hten | exact absurd hall (by simp [isDecDigit])

theorem readFelt_decimal (n : Nat) : readFelt (decimal n) = some n := by
  rw [decimal_nat, readFelt_digits Nat.toDigits_ne_nil isDecDigit_toDigits, ofDigits_toDigits_ten]

theorem parseBigInt_decimal (n : Nat) : parseBigInt (decimal n) = some (n : Int) := by
  rw [decimal_nat, parseBigInt_digits Nat.toDigits_ne_nil isDecDigit_toDigits,
    ofDigits_toDigits_ten]

theorem bigIntOf_hex (n : Nat) : bigIntOf (hex n) = n := by
  rw [bigIntOf, readFelt_hex, Option.getD_some]

theorem bigIntOf_decimal (n : Nat) : bigIntOf (decimal n) = n := by
  rw [bigIntOf, readFelt_decimal, Option.getD_some]

theorem feltOf_hex (v : Felt) : feltOf (hex v.val) = v := by
  rw [feltOf, bigIntOf_hex]
  exact Fin.ext (Nat.mod_eq_of_lt v.isLt)

theorem feltOf_into (v : Fin n) (h : n ≤ fieldPrime) :
    feltOf (hex v.val) = into v h ∧ feltOf (decimal (v.val : Int)) = into v h := by
  have hlt := v.isLt.trans_le h
  unfold feltOf
  rw [bigIntOf_hex, bigIntOf_decimal]
  exact ⟨Fin.ext (Nat.mod_eq_of_lt hlt), Fin.ext (Nat.mod_eq_of_lt hlt)⟩

/-- A felt as a transaction carries it. -/
def sentFelt (value : Text) : Felt := Fin.ofNat fieldPrime ((parseBigInt value).getD 0).toNat

theorem sentFelt_eq {v : Felt} (h : parseBigInt value = some (v.val : Int)) :
    sentFelt value = v := by
  rw [sentFelt, h, Option.getD_some, Int.toNat_natCast]
  exact Fin.ext (Nat.mod_eq_of_lt v.isLt)

theorem sentFelt_hex (v : Fin n) (h : n ≤ fieldPrime) : sentFelt (hex v.val) = into v h :=
  sentFelt_eq (parseBigInt_hex _)

theorem sentFelt_decimal (v : Fin n) (h : n ≤ fieldPrime) :
    sentFelt (decimal (v.val : Int)) = into v h := sentFelt_eq (parseBigInt_decimal _)

theorem sameFelt_ok_iff {s : Text} :
    sameFelt s t = .ok true ↔ ∃ n, parseBigInt s = some n ∧ parseBigInt t = some n := by
  unfold sameFelt
  split
  · rename_i m n hm hn
    simp only [Except.ok.injEq, beq_iff_eq, hm, hn, Option.some.injEq]
    exact ⟨fun h => ⟨m, rfl, h.symm⟩, fun ⟨k, hk, hk'⟩ => hk.trans hk'.symm⟩
  · rename_i hnot
    simp only [reduceCtorEq, false_iff]
    rintro ⟨n, hs, ht⟩
    exact hnot n n hs ht

/-! ## Normal texts -/

theorem confidentialFelt_ok {nonzero : Bool} (h : confidentialFelt value nonzero = .ok t) :
    ∃ v : Felt, t = hex v.val ∧ (nonzero = true → v ≠ 0) := by
  unfold confidentialFelt at h
  split at h
  · cases h
  · rename_i n hread
    by_cases hrange : n < (if nonzero = true then 1 else 0) ∨ fieldPrime ≤ n
    · rw [if_pos hrange] at h
      cases h
    · rw [if_neg hrange] at h
      rw [not_or, not_lt, not_le] at hrange
      refine ⟨⟨n, hrange.2⟩, (Except.ok.inj h).symm, ?_⟩
      rintro rfl heq
      have hzero : n = 0 := congrArg Fin.val heq
      have hlow := hrange.1
      rw [if_pos rfl] at hlow
      omega

theorem address_ok (h : address value = .ok t) : ∃ v : ContractAddress, t = hex v.val ∧ v ≠ 0 := by
  unfold address at h
  obtain ⟨normalized, hfelt, hrest⟩ := bind_ok.mp h
  obtain ⟨v, rfl, hnonzero⟩ := confidentialFelt_ok hfelt
  obtain ⟨_, hlimit, hreturn⟩ := bind_ok.mp hrest
  rw [throwIf_ok, bigIntOf_hex, not_le] at hlimit
  have hlt : v.val < 2 ^ 251 := by
    unfold addressLimit at hlimit
    omega
  refine ⟨⟨v.val, hlt⟩, (Except.ok.inj hreturn).symm, fun heq => hnonzero rfl ?_⟩
  have hzero : v.val = 0 := congrArg Fin.val heq
  exact Fin.ext hzero

theorem amount_ok (h : amount value = .ok t) :
    ∃ v : U128, t = decimal (v.val : Int) ∧ 0 < v.val := by
  unfold amount at h
  obtain ⟨_, hrange, hreturn⟩ := bind_ok.mp h
  rw [throwIf_ok, not_or, not_or, not_or, not_le] at hrange
  exact ⟨⟨_, hrange.2.2.2⟩, (Except.ok.inj hreturn).symm, Nat.pos_of_ne_zero hrange.2.2.1⟩

def Terms.texts (terms : Terms) : ConfidentialTerms where
  tokenA := hex terms.tokenA.val
  tokenB := hex terms.tokenB.val
  amountA := decimal terms.amountA.val
  amountB := decimal terms.amountB.val
  partyA := hex terms.partyA.val
  partyB := hex terms.partyB.val
  salt := hex terms.salt.val

theorem normalTerms_ok {t t' : ConfidentialTerms} (h : normalTerms t = .ok t') :
    ∃ terms : Terms, t' = terms.texts ∧ 0 < terms.amountA.val ∧ 0 < terms.amountB.val ∧
      terms.salt ≠ 0 := by
  unfold normalTerms at h
  simp only [bind_ok] at h
  obtain ⟨_, htokenA, _, htokenB, _, hamountA, _, hamountB, _, hpartyA, _, hpartyB, _, hsalt,
    hreturn⟩ := h
  obtain ⟨tokenA, rfl, -⟩ := address_ok htokenA
  obtain ⟨tokenB, rfl, -⟩ := address_ok htokenB
  obtain ⟨amountA, rfl, hposA⟩ := amount_ok hamountA
  obtain ⟨amountB, rfl, hposB⟩ := amount_ok hamountB
  obtain ⟨partyA, rfl, -⟩ := address_ok hpartyA
  obtain ⟨partyB, rfl, -⟩ := address_ok hpartyB
  obtain ⟨salt, rfl, hnonzero⟩ := confidentialFelt_ok hsalt
  exact ⟨⟨tokenA, tokenB, amountA, amountB, partyA, partyB, salt⟩, (Except.ok.inj hreturn).symm,
    hposA, hposB, hnonzero rfl⟩

theorem Terms.felts_texts (terms : Terms) :
    (confidentialTermsFelts terms.texts).map feltOf = terms.serialize ∧
      (confidentialTermsFelts terms.texts).map sentFelt = terms.serialize := by
  constructor
  · simp only [confidentialTermsFelts, Terms.texts, List.map_cons, List.map_nil, Terms.serialize,
      feltOf_hex, (feltOf_into terms.tokenA (by decide)).1,
      (feltOf_into terms.tokenB (by decide)).1,
      (feltOf_into terms.amountA (by decide)).2, (feltOf_into terms.amountB (by decide)).2,
      (feltOf_into terms.partyA (by decide)).1, (feltOf_into terms.partyB (by decide)).1]
  · simp only [confidentialTermsFelts, Terms.texts, List.map_cons, List.map_nil, Terms.serialize,
      sentFelt_hex terms.tokenA (by decide), sentFelt_hex terms.tokenB (by decide),
      sentFelt_decimal terms.amountA (by decide), sentFelt_decimal terms.amountB (by decide),
      sentFelt_hex terms.partyA (by decide), sentFelt_hex terms.partyB (by decide),
      sentFelt_eq (parseBigInt_hex terms.salt.val)]

/-! ## Deployments -/

/-- The escrow that is constructed from a normalised agreement; its pool still has the class of
that time. -/
structure Deployed (P : Platform) (cx₀ cx : CallContext) (a : ConfidentialAgreement) (s : Storage) :
    Prop where
  normal : normalizeConfidentialAgreement P a = .ok a
  deployed : a.address ≠ "0x0".toList
  account : bigIntOf a.address = P.contractAddress.val
  chain : bigIntOf a.chainId = P.chainId.val
  constructed : ∃ (pool : ContractAddress) (poolClass commitment signerA signerB : Felt)
    (deadline : U64), (confidentialConstructor P a).map (List.map feltOf) =
        .ok [into pool, poolClass, commitment, signerA, signerB, into deadline] ∧
      constructor cx₀ pool poolClass commitment signerA signerB deadline = .ok s
  pinned : cx.classHashAt s.pool = cx₀.classHashAt s.pool

/-- The texts of an agreement are those of the account's configuration and of terms. -/
structure Spells (P : Platform) (a : ConfidentialAgreement) (s : Storage) (terms : Terms) :
    Prop where
  ofTerms : a.terms = terms.texts
  agreed : terms.Agreed
  ofChain : a.chainId = hex P.chainId.val
  ofAddress : a.address = hex P.contractAddress.val
  ofPool : a.pool = hex s.pool.val
  ofClass : a.poolClassHash = hex s.poolClass.val
  ofSignerA : a.signerA = hex s.signerA.val
  ofSignerB : a.signerB = hex s.signerB.val
  ofCommitment : a.commitment = hex s.commitment.val
  committed : termsCommitment P s terms = s.commitment

/-- What the texts of a new agreement are, over the values that they are written from. -/
structure Normal (P : Platform) (a : ConfidentialAgreement) (terms : Terms) (chainId : Felt)
    (pool : ContractAddress) (poolClass signerA signerB : Felt) : Prop where
  ofTerms : a.terms = terms.texts
  agreed : terms.Agreed
  ofChain : a.chainId = hex chainId.val
  ofPool : a.pool = hex pool.val
  ofClass : a.poolClassHash = hex poolClass.val
  ofSignerA : a.signerA = hex signerA.val
  ofSignerB : a.signerB = hex signerB.val
  deadline : 0 < a.deadline
  ofCommitment : a.commitment = poseidon P ([shortString "APP20_JOINT_TERMS_V1", chainId, into pool,
    poolClass, signerA, signerB, Fin.ofNat fieldPrime a.deadline.toNat] ++ terms.serialize)

variable {P : Platform}

theorem Terms.texts_agreed {terms : Terms} (hposA : 0 < terms.amountA.val)
    (hposB : 0 < terms.amountB.val) (hsalt : terms.salt ≠ 0)
    (hdistinct : ¬ (terms.texts.tokenA = terms.texts.tokenB ∨
      terms.texts.partyA = terms.texts.partyB)) : terms.Agreed := by
  rw [not_or] at hdistinct
  refine ⟨fun heq => hdistinct.1 ?_, fun heq => hdistinct.2 ?_, hposA, hposB, hsalt⟩
  · rw [Terms.texts, heq]
  · rw [Terms.texts, heq]

theorem normal_of_create {input : ConfidentialAgreement} {newAddress : Option Text}
    (h : createConfidentialAgreement P input newAddress = .ok a) :
    (∃ (terms : Terms) (chainId : Felt) (pool : ContractAddress) (poolClass signerA signerB : Felt),
      Normal P a terms chainId pool poolClass signerA signerB) ∧
      normalAddress newAddress = .ok a.address := by
  unfold createConfidentialAgreement at h
  simp only [bind_ok, throwIf_ok] at h
  obtain ⟨_, hterms, _, hdistinct, _, hdeadline, _, hchain, _, hpool, _, hclass, _, _, _, hA, _, hB,
    _, _, address, haddress, hreturn⟩ := h
  obtain ⟨terms, rfl, hposA, hposB, hsalt⟩ := normalTerms_ok hterms
  obtain ⟨chainId, rfl, -⟩ := confidentialFelt_ok hchain
  obtain ⟨pool, rfl, -⟩ := address_ok hpool
  obtain ⟨poolClass, rfl, -⟩ := confidentialFelt_ok hclass
  obtain ⟨signerA, rfl, -⟩ := confidentialFelt_ok hA
  obtain ⟨signerB, rfl, -⟩ := confidentialFelt_ok hB
  obtain rfl := Except.ok.inj hreturn
  refine ⟨⟨terms, chainId, pool, poolClass, signerA, signerB, ?_⟩, haddress⟩
  refine ⟨rfl, Terms.texts_agreed hposA hposB hsalt hdistinct, rfl, rfl, rfl, rfl, rfl, ?_, ?_⟩
  · show (0 : Int) < input.deadline
    omega
  · rw [← terms.felts_texts.1]
    simp only [feltOf_hex, (feltOf_into pool (by decide)).1]

theorem create_of_normalize {value : ConfidentialAgreement}
    (h : normalizeConfidentialAgreement P value = .ok a) :
    ∃ newAddress, createConfidentialAgreement P value newAddress = .ok a := by
  unfold normalizeConfidentialAgreement at h
  simp only [bind_ok, throwIf_ok] at h
  obtain ⟨_, _, _, _, result, hresult, _, _, _, _, hreturn⟩ := h
  obtain rfl := Except.ok.inj hreturn
  exact ⟨_, hresult⟩

theorem normalAddress_ok {newAddress : Option Text} (h : normalAddress newAddress = .ok t)
    (hdeployed : t ≠ "0x0".toList) :
    ∃ v : ContractAddress, t = hex v.val := by
  unfold normalAddress at h
  split at h
  · exact absurd (Except.ok.inj h).symm hdeployed
  · exact absurd (Except.ok.inj h).symm hdeployed
  · obtain ⟨v, rfl, -⟩ := address_ok h
    exact ⟨v, rfl⟩

theorem constructor_ok {pool : ContractAddress} {poolClass commitment signerA signerB : Felt}
    {deadline : U64} (h : constructor cx pool poolClass commitment signerA signerB deadline = .ok s) :
    s = ⟨pool, poolClass, commitment, signerA, signerB, deadline, false⟩ ∧
      cx.classHashAt pool = some poolClass := by
  unfold constructor at h
  simp only [bind_ok, check_ok_iff, getClassHashAt_eq_ok] at h
  obtain ⟨_, _, _, _, c, hclass, _, rfl, hreturn⟩ := h
  exact ⟨(Except.ok.inj hreturn).symm, hclass⟩

theorem Deployed.spells {cx₀ : CallContext} (h : Deployed P cx₀ cx a s) :
    (∃ terms, Spells P a s terms) ∧ cx.classHashAt s.pool = some s.poolClass := by
  obtain ⟨newAddress, hcreate⟩ := create_of_normalize h.normal
  obtain ⟨⟨terms, chainId, pool, poolClass, signerA, signerB, hnormal⟩, haddress⟩ :=
    normal_of_create hcreate
  obtain ⟨account, haccount⟩ := normalAddress_ok haddress h.deployed
  obtain ⟨pool', poolClass', commitment, signerA', signerB', deadline, hargs, hs⟩ := h.constructed
  obtain ⟨rfl, hclass⟩ := constructor_ok hs
  have hself : account = P.contractAddress := by
    have hvalue := h.account
    rw [haccount, bigIntOf_hex] at hvalue
    exact Fin.ext hvalue
  have hchain : chainId = P.chainId := by
    have hvalue := h.chain
    rw [hnormal.ofChain, bigIntOf_hex] at hvalue
    exact Fin.ext hvalue
  -- the calldata of the constructor are the texts of the agreement
  have hdeadline : feltOf (decimal a.deadline) = Fin.ofNat fieldPrime a.deadline.toNat := by
    have hnat : a.deadline = (a.deadline.toNat : Int) :=
      (Int.toNat_of_nonneg (le_of_lt hnormal.deadline)).symm
    rw [feltOf, hnat, bigIntOf_decimal, Int.toNat_natCast]
  have hcommitment : feltOf a.commitment = P.poseidonHashSpan
      ([shortString "APP20_JOINT_TERMS_V1", chainId, into pool, poolClass, signerA, signerB,
        Fin.ofNat fieldPrime a.deadline.toNat] ++ terms.serialize) := by
    rw [hnormal.ofCommitment, poseidon, feltOf_hex]
  unfold confidentialConstructor at hargs
  rw [h.normal, ok_bind] at hargs
  have hlist := Except.ok.inj hargs
  simp only [List.map_cons, List.map_nil, List.cons.injEq, hnormal.ofPool, hnormal.ofClass,
    hnormal.ofSignerA, hnormal.ofSignerB, hdeadline, hcommitment, feltOf_hex,
    (feltOf_into pool (by decide)).1, into_injective] at hlist
  obtain ⟨rfl, rfl, rfl, rfl, rfl, hlast, -⟩ := hlist
  subst hself hchain
  refine ⟨⟨terms, hnormal.ofTerms, hnormal.agreed, hnormal.ofChain, haccount, hnormal.ofPool,
    hnormal.ofClass, hnormal.ofSignerA, hnormal.ofSignerB, hnormal.ofCommitment, ?_⟩,
    h.pinned.trans hclass⟩
  rw [termsCommitment, hlast]

theorem Spells.matches {terms : Terms} (h : Spells P a s terms) :
    Matches a P.contractAddress terms := by
  refine ⟨?_, ?_, ?_, ?_, ?_, ?_, ?_, h.agreed.tokens⟩
  · rw [h.ofTerms, Terms.texts, bigIntOf_hex]
  · rw [h.ofTerms, Terms.texts, bigIntOf_hex]
  · rw [h.ofTerms, Terms.texts, bigIntOf_decimal]
  · rw [h.ofTerms, Terms.texts, bigIntOf_decimal]
  · rw [h.ofTerms, Terms.texts, bigIntOf_hex]
  · rw [h.ofTerms, Terms.texts, bigIntOf_hex]
  · rw [h.ofAddress, bigIntOf_hex]

/-- Wallet and account hash the same values. -/
theorem Spells.digest {terms : Terms} (h : Spells P a s terms) (mode : ConfidentialMode)
    (inner : List Felt) :
    confidentialDigest P a mode inner = hex (authDigest P s mode.code inner).val := by
  rw [confidentialDigest, poseidon, authDigest, h.ofChain, h.ofAddress, h.ofPool, h.ofClass,
    h.ofCommitment]
  simp only [feltOf_hex, (feltOf_into P.contractAddress (by decide)).1,
    (feltOf_into s.pool (by decide)).1]

/-! ## What the wallet accepts -/

/-- The invocation compiles the calldata `inner` on the agreement's pool. -/
structure Invokes (a : ConfidentialAgreement) (inner : List Felt)
    (invocation : ConfidentialInvocation) : Prop where
  sender : sameFelt invocation.senderAddress a.pool = .ok true
  calldata : ∃ version target selector length values,
    invocation.calldata = version :: target :: selector :: length :: values ∧
      sameFelt version "1".toList = .ok true ∧ sameFelt target a.pool = .ok true ∧
      sameFelt selector (hex compileActionsSelector.val) = .ok true ∧
      parseBigInt length = some (inner.length : Int) ∧
      values.map readFelt = inner.map fun v => some v.val
  bounded : invocation.calldata.length ≤ 4096

theorem confidentialFelt_of_read {v : Felt} (h : readFelt value = some v.val) :
    confidentialFelt value false = .ok (hex v.val) := by
  have hrange : ¬ (v.val < (if false = true then 1 else 0) ∨ fieldPrime ≤ v.val) := by
    have hlt := v.isLt
    simp only [Bool.false_eq_true, if_false]
    omega
  unfold confidentialFelt
  rw [h]
  exact if_neg hrange

theorem mapM_confidentialFelt {values : List Text}
    (h : values.map readFelt = inner.map fun v => some v.val) :
    (values.mapM fun value => confidentialFelt value false) =
      .ok (inner.map fun v => hex v.val) := by
  induction values generalizing inner with
  | nil =>
    obtain rfl : inner = [] := (List.map_eq_nil_iff.mp h.symm)
    rfl
  | cons value values ih =>
    cases inner with
    | nil => cases h
    | cons v inner =>
      obtain ⟨hread, hrest⟩ := List.cons.inj h
      rw [List.mapM_cons, confidentialFelt_of_read hread, ih hrest]
      rfl

theorem confidentialInner_ok_iff {inner' : List Felt} {invocation : ConfidentialInvocation}
    (h : Invokes a inner invocation) :
    confidentialInner invocation.calldata = .ok inner' ↔ 3 ≤ inner.length ∧ inner' = inner := by
  obtain ⟨version, target, selector, length, values, hcalldata, hversion, -, -, hlength, hread⟩ :=
    h.calldata
  have hsame : values.length = inner.length := by
    have hlen := congrArg List.length hread
    rwa [List.length_map, List.length_map] at hlen
  have hbound := h.bounded
  have htexts : (inner.map fun v => hex v.val).map feltOf = inner := by
    rw [List.map_map]
    exact (List.map_congr_left fun v _ => feltOf_hex v).trans (List.map_id inner)
  rw [hcalldata] at hbound ⊢
  simp only [List.length_cons] at hbound
  simp only [confidentialInner, callHeader, List.length_cons, bind_ok, throwIf_ok,
    hversion, hlength, mapM_confidentialFelt hread, Except.ok.injEq, exists_eq_left', htexts,
    pure_ok]
  constructor
  · rintro ⟨_, hshort, _, _, rfl⟩
    exact ⟨by omega, rfl⟩
  · rintro ⟨hshort, rfl⟩
    refine ⟨(), by omega, (), ?_, rfl⟩
    rintro (hfalse | hne)
    · cases hfalse
    · exact hne (congrArg some (by omega))

theorem compilesOnPool_ok {invocation : ConfidentialInvocation} (h : Invokes a inner invocation) :
    compilesOnPool a invocation = .ok () := by
  obtain ⟨version, target, selector, length, values, hcalldata, -, htarget, hselector, -⟩ :=
    h.calldata
  unfold compilesOnPool
  rw [hcalldata]
  simp only [callHeader]
  rw [h.sender, ok_bind, htarget, ok_bind, hselector, ok_bind]
  exact throwIf_neg (by simp)

theorem Bundle.encode_length (self : ContractAddress) (b : Bundle) :
    3 ≤ (b.encode self).length := by
  simp only [Bundle.encode, encodeList, List.length_cons]
  omega

def CanonicalKey (viewingKey : Felt) : Prop :=
  0 < (viewingKey.val : Int) ∧ (viewingKey.val : Int) ≤ curveOrder / 2 deriving Decidable

/-- The operations that the wallet accepts, whatever its other data. -/
theorem wallet_ok_iff {terms : Terms} {prepared : ConfidentialPrepared} {viewingKey : Felt}
    (hnormal : normalizeConfidentialAgreement P prepared.agreement = .ok prepared.agreement)
    (hdeployed : prepared.agreement.address ≠ "0x0".toList)
    (hspells : Spells P prepared.agreement s terms) (hkey : CanonicalKey viewingKey)
    (hinvokes : Invokes prepared.agreement inner prepared.invocation)
    (hdigest : sameFelt (confidentialDigest P prepared.agreement prepared.mode inner)
      prepared.digest = .ok true) :
    (∃ review, reviewConfidentialOperation P prepared (viewingKey.val : Int) = .ok review ∧
        review.digest = confidentialDigest P prepared.agreement prepared.mode inner) ↔
      ∃ b before, inner = Bundle.encode P.contractAddress b ∧ b.viewingKey = viewingKey ∧
        Complies P.contractAddress prepared.mode.code terms b before := by
  rw [← Review.review_ok_iff hspells.matches]
  unfold reviewConfidentialOperation
  simp only [bind_ok, throwIf_ok, hnormal, Except.ok.injEq, exists_eq_left',
    confidentialInner_ok_iff hinvokes, compilesOnPool_ok hinvokes, and_assoc, pure_ok]
  constructor
  · rintro ⟨review, ⟨_, _, _, _, rfl, _, _, t, ht, _⟩, _⟩
    exact ⟨t, ht⟩
  · rintro ⟨t, ht⟩
    have hlen : 3 ≤ inner.length := by
      obtain ⟨b, before, rfl, _⟩ := (Review.review_ok_iff hspells.matches).mp ⟨t, ht⟩
      exact Bundle.encode_length _ b
    refine ⟨_, ⟨(), ?_, _, hlen, rfl, (), trivial, t, ht, true, hdigest, (), by simp, rfl⟩, rfl⟩
    rintro (hzero | hlow | hhigh)
    · exact hdeployed hzero
    · exact absurd hkey.1 (by omega)
    · exact absurd hkey.2 (by omega)

/-! ## What the account accepts -/

/-- The wallet's library verifies a signature against one of the two points of a key, and then its
parts are felts that the account's check takes. -/
def VerifySound (P : Platform) (verify : Verify) : Prop :=
  ∀ (r s : Int) (digest key : Felt) (parity : Text), parity = "02".toList ∨ parity = "03".toList →
    verify r s (hex digest.val) (parity ++ padded (Nat.toDigits 16 key.val)) = some true →
      ∃ x y : Felt, (x.val : Int) = r ∧ (y.val : Int) = s ∧
        P.checkEcdsaSignature digest key x y = true

theorem approval_checked {verify : Verify} (hverify : VerifySound P verify)
    {approval : ConfidentialApproval} {digest key : Felt}
    (hkey : signerOf a approval.role = hex key.val)
    (h : verifyConfidentialApproval verify a (hex digest.val) approval = true) :
    P.checkEcdsaSignature digest key (sentFelt approval.signature.1)
      (sentFelt approval.signature.2) = true := by
  have hpublic : publicKeyOf a approval.role = padded (Nat.toDigits 16 key.val) := by
    rw [publicKeyOf, hkey]
    rfl
  unfold verifyConfidentialApproval at h
  rw [hpublic] at h
  split at h
  · rename_i r s _ hr hs
    obtain ⟨parity, hparity, htrue⟩ : ∃ parity : Text, (parity = "02".toList ∨
        parity = "03".toList) ∧ verify r s (hex digest.val)
          (parity ++ padded (Nat.toDigits 16 key.val)) = some true := by
      split at h
      · cases h
      · exact ⟨_, Or.inl rfl, ‹_›⟩
      · refine ⟨_, Or.inr rfl, ?_⟩
        rw [Option.getD_eq_iff] at h
        exact h.resolve_right (by simp)
    obtain ⟨x, y, rfl, rfl, hcheck⟩ := hverify r s digest key parity hparity htrue
    rwa [sentFelt_eq hr, sentFelt_eq hs]
  · cases h

theorem signatureFor_pair (approvals : List ConfidentialApproval) (role : ConfidentialRole) :
    ∃ r s, signatureFor approvals role = [r, s] := by
  unfold signatureFor
  split <;> exact ⟨_, _, rfl⟩

theorem signatureFor_checked {verify : Verify} (hverify : VerifySound P verify)
    {approvals : List ConfidentialApproval} {role : ConfidentialRole} {digest key : Felt}
    (hkey : signerOf a role = hex key.val) (hrole : role ∈ approvals.map ConfidentialApproval.role)
    (hvalid : approvals.all (verifyConfidentialApproval verify a (hex digest.val)) = true)
    {r s : Text} (hsignature : signatureFor approvals role = [r, s]) :
    P.checkEcdsaSignature digest key (sentFelt r) (sentFelt s) = true := by
  unfold signatureFor at hsignature
  split at hsignature
  · rename_i approval hfind
    obtain ⟨rfl, hrest⟩ := List.cons.inj hsignature
    obtain ⟨rfl, -⟩ := List.cons.inj hrest
    have hfound := List.find?_some hfind
    have hsame : approval.role = role := of_decide_eq_true hfound
    have hmem := List.mem_of_find?_eq_some hfind
    exact approval_checked hverify (hsame ▸ hkey) (List.all_eq_true.mp hvalid approval hmem)
  · rename_i hnone
    obtain ⟨approval, hmem, rfl⟩ := List.mem_map.mp hrole
    exact absurd (decide_eq_true rfl) (List.find?_eq_none.mp hnone approval hmem)

/-- The array stands for one authorisation, which the account's checks of signatures take. -/
theorem authorizedSignature_encode {terms : Terms} (h : Spells P a s terms) {verify : Verify}
    (hverify : VerifySound P verify) {mode : ConfidentialMode}
    {approvals : List ConfidentialApproval} (honce : ExactlyOnce mode approvals)
    (hvalid : approvals.all (verifyConfidentialApproval verify a
      (confidentialDigest P a mode inner)) = true) :
    ∃ auth : Authorisation, (authorizedSignature a mode approvals).map sentFelt = auth.encode ∧
      auth.mode = mode.code ∧ auth.terms = terms ∧
      (auth.mode ≠ refundB → SignedByA P s auth inner) ∧
      (auth.mode ≠ refundA → SignedByB P s auth inner) := by
  obtain ⟨rA, sA, hA⟩ := signatureFor_pair approvals .a
  obtain ⟨rB, sB, hB⟩ := signatureFor_pair approvals .b
  rw [h.digest] at hvalid
  refine ⟨⟨mode.code, terms, sentFelt rA, sentFelt sA, sentFelt rB, sentFelt sB⟩, ?_, rfl, rfl,
    fun hmode => ?_, fun hmode => ?_⟩
  · rw [authorizedSignature, hA, hB, h.ofTerms, List.map_cons,
      sentFelt_decimal mode.code (by decide), List.map_append, List.map_append,
      terms.felts_texts.2, List.append_assoc]
    rfl
  · have hrequired : ConfidentialRole.a ∈ confidentialRequiredSigners mode := by
      cases mode <;> simp [confidentialRequiredSigners] at hmode ⊢
      exact hmode rfl
    have hkey : signerOf a .a = hex s.signerA.val := h.ofSignerA
    exact signatureFor_checked hverify hkey (honce.2.2 _ hrequired) hvalid hA
  · have hrequired : ConfidentialRole.b ∈ confidentialRequiredSigners mode := by
      cases mode <;> simp [confidentialRequiredSigners] at hmode ⊢
      exact hmode rfl
    have hkey : signerOf a .b = hex s.signerB.val := h.ofSignerB
    exact signatureFor_checked hverify hkey (honce.2.2 _ hrequired) hvalid hB

theorem code_le (mode : ConfidentialMode) : mode.code.val ≤ refundB.val := by
  cases mode <;> decide

/-- The operations that the account accepts under the array that the wallet builds. -/
theorem contract_ok_iff {terms : Terms} (h : Spells P a s terms)
    (hclass : cx.classHashAt s.pool = some s.poolClass) {verify : Verify}
    (hverify : VerifySound P verify) {mode : ConfidentialMode}
    {approvals : List ConfidentialApproval} (honce : ExactlyOnce mode approvals)
    (hvalid : approvals.all (verifyConfidentialApproval verify a
      (confidentialDigest P a mode inner)) = true) :
    isCustomSignatureValid P cx s [⟨s.pool, compileActionsSelector, inner⟩] []
        ((authorizedSignature a mode approvals).map sentFelt) = .ok validated ↔
      ∃ b, inner = Bundle.encode P.contractAddress b ∧
        Admitted P.contractAddress mode.code terms b := by
  obtain ⟨auth, hauth, hmode, rfl, hA, hB⟩ := authorizedSignature_encode h hverify honce hvalid
  rw [hauth, isCustomSignatureValid_ok_iff, ← hmode]
  constructor
  · rintro ⟨-, -, call, auth', b, hcall, hencode, haccepts⟩
    obtain rfl := Authorisation.encode_injective hencode
    obtain rfl := (List.cons.inj hcall).1
    exact ⟨b, haccepts.calldata, haccepts.admitted⟩
  · rintro ⟨b, hinner, hadmitted⟩
    exact ⟨rfl, rfl, _, auth, b, rfl, rfl, rfl, rfl, hinner, hmode ▸ code_le mode, h.agreed, hclass,
      h.committed, hadmitted, hA, hB⟩

/-! ## Agreement -/

/-- Wallet and account agree on an operation. -/
structure Agree (P : Platform) (cx : CallContext) (s : Storage) (verify : Verify)
    (prepared : ConfidentialPrepared) (inner : List Felt) (viewingKey : Felt)
    (approvals : List ConfidentialApproval) : Prop where
  accepts : (∃ review, reviewConfidentialOperation P prepared (viewingKey.val : Int) = .ok review ∧
        review.digest = confidentialDigest P prepared.agreement prepared.mode inner) ↔
      isCustomSignatureValid P cx s [⟨s.pool, compileActionsSelector, inner⟩] []
        ((authorizedSignature prepared.agreement prepared.mode approvals).map sentFelt) =
          .ok validated
  digest : confidentialDigest P prepared.agreement prepared.mode inner =
    hex (authDigest P s prepared.mode.code inner).val
  authorized : (∃ review, reviewConfidentialOperation P prepared (viewingKey.val : Int) =
        .ok review ∧ review.digest = confidentialDigest P prepared.agreement prepared.mode inner) →
      authorizeConfidentialOperation P verify prepared (viewingKey.val : Int) approvals =
        .ok { prepared.invocation with
          signature := authorizedSignature prepared.agreement prepared.mode approvals }

/-- The calldata of a refund that follows the policy and returns more than a `u128` holds. -/
def Overflows (self : ContractAddress) (a : ConfidentialAgreement) (mode : ConfidentialMode)
    (inner : List Felt) : Prop :=
  ∃ terms b before, a.terms = Terms.texts terms ∧ inner = Bundle.encode self b ∧
    Complies self mode.code terms b before ∧ mode ≠ .settle ∧ 2 ^ 128 ≤ sumOver Action.output before

theorem texts_injective : Function.Injective Terms.texts := by
  rintro ⟨tokenA, tokenB, amountA, amountB, partyA, partyB, salt⟩
    ⟨tokenA', tokenB', amountA', amountB', partyA', partyB', salt'⟩ h
  simp only [Terms.texts, ConfidentialTerms.mk.injEq, hex_injective.eq_iff,
    decimal_injective.eq_iff, Int.natCast_inj, ← Fin.ext_iff] at h
  simp only [Terms.mk.injEq]
  exact h

theorem Complies.unique {self : ContractAddress} {mode : U8} {terms : Terms} {b : Bundle}
    {before before' : List Action} (h : Complies self mode terms b before)
    (h' : Complies self mode terms b before') : before = before' :=
  List.append_cancel_right (h.1.symm.trans h'.1)

theorem admitted_iff_complies {self : ContractAddress} {mode : U8} {terms : Terms} {b : Bundle} :
    Admitted self mode terms b ↔ ∃ before, Complies self mode terms b before ∧
      (mode ≠ settle → sumOver Action.output before < 2 ^ 128) := by
  constructor
  · rintro ⟨before, hactions, hlen, hall, hpays⟩
    obtain ⟨hcovers, hfits⟩ := pays_iff_covers.mp hpays
    exact ⟨before, ⟨hactions, hlen, hall, hcovers⟩, hfits⟩
  · rintro ⟨before, ⟨hactions, hlen, hall, hcovers⟩, hfits⟩
    exact ⟨before, hactions, hlen, hall, pays_iff_covers.mpr ⟨hcovers, hfits⟩⟩

/-- Wallet and account agree on every operation but a refund that no `u128` holds. -/
theorem review_agrees_iff {cx₀ cx : CallContext} {s : Storage} {verify : Verify}
    {prepared : ConfidentialPrepared} {inner : List Felt} {viewingKey : Felt}
    {approvals : List ConfidentialApproval} (hdeployed : Deployed P cx₀ cx prepared.agreement s)
    (hkey : CanonicalKey viewingKey) (hescrow : ∀ key ∈ inner[1]?, key = viewingKey)
    (hinvokes : Invokes prepared.agreement inner prepared.invocation)
    (hdigest : sameFelt (confidentialDigest P prepared.agreement prepared.mode inner)
      prepared.digest = .ok true) (hverify : VerifySound P verify)
    (honce : ExactlyOnce prepared.mode approvals)
    (hvalid : approvals.all (verifyConfidentialApproval verify prepared.agreement
      (confidentialDigest P prepared.agreement prepared.mode inner)) = true) :
    Agree P cx s verify prepared inner viewingKey approvals ↔
      ¬ Overflows P.contractAddress prepared.agreement prepared.mode inner := by
  obtain ⟨⟨terms, hspells⟩, hclass⟩ := hdeployed.spells
  have hwallet := wallet_ok_iff hdeployed.normal hdeployed.deployed hspells hkey hinvokes hdigest
  have hcontract := contract_ok_iff hspells hclass hverify honce hvalid
  have hauthorized : (∃ review, reviewConfidentialOperation P prepared (viewingKey.val : Int) =
        .ok review ∧ review.digest = confidentialDigest P prepared.agreement prepared.mode inner) →
      authorizeConfidentialOperation P verify prepared (viewingKey.val : Int) approvals =
        .ok { prepared.invocation with
          signature := authorizedSignature prepared.agreement prepared.mode approvals } := by
    rintro ⟨review, hreview, hsame⟩
    unfold authorizeConfidentialOperation
    rw [hreview, ok_bind, throwIf_neg (not_not.mpr honce), ok_bind, hsame,
      throwIf_neg (by rw [hvalid]; simp), ok_bind]
    rfl
  constructor
  · rintro ⟨haccepts, -, -⟩ ⟨terms', b, before, hterms, rfl, hcomplies, hmode, hsum⟩
    obtain rfl := texts_injective (hspells.ofTerms.symm.trans hterms)
    -- the second felt of the bundle is its key
    have hsame : b.viewingKey = viewingKey := hescrow _ rfl
    obtain ⟨b', hb, hadmitted⟩ :=
      hcontract.mp (haccepts.mp (hwallet.mpr ⟨b, before, rfl, hsame, hcomplies⟩))
    obtain rfl := Bundle.encode_injective _ hb
    obtain ⟨before', hcomplies', hfits⟩ := admitted_iff_complies.mp hadmitted
    obtain rfl := hcomplies.unique hcomplies'
    exact absurd (hfits fun heq => hmode (code_settle.mpr heq)) (not_lt.mpr hsum)
  · intro hno
    refine ⟨?_, hspells.digest _ _, hauthorized⟩
    rw [hwallet, hcontract]
    constructor
    · rintro ⟨b, before, rfl, -, hcomplies⟩
      refine ⟨b, rfl, admitted_iff_complies.mpr ⟨before, hcomplies, fun hmode => ?_⟩⟩
      by_contra hsum
      exact hno ⟨terms, b, before, hspells.ofTerms, rfl, hcomplies,
        fun heq => hmode (code_settle.mp heq), not_lt.mp hsum⟩
    · rintro ⟨b, rfl, hadmitted⟩
      obtain ⟨before, hcomplies, -⟩ := admitted_iff_complies.mp hadmitted
      exact ⟨b, before, rfl, hescrow _ rfl, hcomplies⟩

/-! ## An escrow and its wallets -/

namespace Fixture

def agreement : ConfidentialAgreement where
  schema := confidentialRfqSchema
  chainId := hex 1
  pool := hex 0x200
  poolClassHash := hex 0x67
  escrowClassHash := hex 0x99
  signerA := hex 0x123
  signerB := hex 0x456
  deadline := 1000
  terms := terms.texts
  commitment := hex storage.commitment.val
  address := hex 0x300

def invocation (inner : List Felt) : ConfidentialInvocation where
  senderAddress := hex 0x200
  calldata := "1".toList :: hex 0x200 :: hex compileActionsSelector.val ::
    decimal (inner.length : Int) :: inner.map fun v => hex v.val
  signature := []

def prepare (mode : ConfidentialMode) (inner : List Felt) : ConfidentialPrepared :=
  ⟨agreement, mode, invocation inner, confidentialDigest platform agreement mode inner⟩

/-- The library next to the platform's check. -/
def verify : Verify := fun r s digest key =>
  some (decide (s = 1 ∧
    r = (feltOf digest + Fin.ofNat fieldPrime (ofDigits 16 (key.drop 2)) : Felt).val))

def approve (mode : ConfidentialMode) (inner : List Felt) (role : ConfidentialRole) :
    ConfidentialApproval :=
  ⟨role, confidentialDigest platform agreement mode inner,
    (hex (feltOf (confidentialDigest platform agreement mode inner) +
      feltOf (signerOf agreement role) : Felt).val, hex 1)⟩

def approvals (mode : ConfidentialMode) (inner : List Felt) : List ConfidentialApproval :=
  (confidentialRequiredSigners mode).map (approve mode inner)

/-- A refund in two notes, each of the largest amount. -/
def refund : List Felt :=
  [0x300, 17, 4, 6, 111, 0x400, 0, 3, 0x600, 33, 0x400, 2 ^ 128 - 1, 0, 88,
    3, 0x600, 44, 0x400, 2 ^ 128 - 1, 0, 99, 9, 0x300, 2, 17, 2, 0]

theorem deployed : Deployed platform context context agreement storage where
  normal := by decide +kernel
  deployed := by decide +kernel
  account := bigIntOf_hex _
  chain := bigIntOf_hex _
  constructed := ⟨0x200, 0x67, storage.commitment, 0x123, 0x456, 1000, by decide +kernel, rfl⟩
  pinned := rfl

theorem invokes (h : inner.length ≤ 4092) : Invokes agreement inner (invocation inner) where
  sender := sameFelt_ok_iff.mpr ⟨_, parseBigInt_hex _, parseBigInt_hex _⟩
  calldata := by
    refine ⟨_, _, _, _, _, rfl, by decide +kernel,
      sameFelt_ok_iff.mpr ⟨_, parseBigInt_hex _, parseBigInt_hex _⟩,
      sameFelt_ok_iff.mpr ⟨_, parseBigInt_hex _, parseBigInt_hex _⟩, parseBigInt_decimal _, ?_⟩
    rw [List.map_map]
    exact List.map_congr_left fun v _ => readFelt_hex v.val
  bounded := by
    simp only [invocation, List.length_cons, List.length_map]
    omega

theorem digest_same (mode : ConfidentialMode) (inner : List Felt) :
    sameFelt (confidentialDigest platform agreement mode inner) (prepare mode inner).digest =
      .ok true := sameFelt_ok_iff.mpr ⟨_, parseBigInt_hex _, parseBigInt_hex _⟩

theorem ofDigits_replicate (k : Nat) (ds : Text) :
    ofDigits 16 (List.replicate k '0' ++ ds) = ofDigits 16 ds := by
  induction k with
  | zero => rfl
  | succ k ih => exact ih

theorem verify_sound : VerifySound platform verify := by
  intro r s digest key parity hparity h
  have hdrop : (parity ++ padded (Nat.toDigits 16 key.val)).drop 2 =
      padded (Nat.toDigits 16 key.val) := by
    rcases hparity with rfl | rfl <;> rfl
  have hkey : (Fin.ofNat fieldPrime key.val : Felt) = key := Fin.ext (Nat.mod_eq_of_lt key.isLt)
  have hboth := of_decide_eq_true (Option.some.inj h)
  rw [hdrop, padded, ofDigits_replicate, ofDigits_toDigits, feltOf_hex, hkey] at hboth
  obtain ⟨rfl, rfl⟩ := hboth
  exact ⟨digest + key, 1, rfl, rfl, decide_eq_true ⟨rfl, rfl⟩⟩

end Fixture

/-- The two agree on the settlement. -/
theorem review_agrees_settlement :
    Agree Fixture.platform Fixture.context Fixture.storage Fixture.verify
        (Fixture.prepare .settle Fixture.settlement) Fixture.settlement 17
        (Fixture.approvals .settle Fixture.settlement) ↔
      ¬ Overflows 0x300 Fixture.agreement .settle Fixture.settlement :=
  review_agrees_iff Fixture.deployed (by decide +kernel)
    (fun _ hsecond => (Option.some.inj hsecond).symm) (Fixture.invokes (by decide))
    (Fixture.digest_same _ _) Fixture.verify_sound (by decide) (by decide +kernel)

/-- The wallet accepts a refund that the account stops on. -/
theorem refund_disagrees :
    Deployed Fixture.platform Fixture.context Fixture.context Fixture.agreement Fixture.storage ∧
      Invokes Fixture.agreement Fixture.refund
        (Fixture.prepare .refundA Fixture.refund).invocation ∧
      Fixture.refund[1]? = some 17 ∧ CanonicalKey 17 ∧ VerifySound Fixture.platform Fixture.verify ∧
      ExactlyOnce .refundA (Fixture.approvals .refundA Fixture.refund) ∧
      (Fixture.approvals .refundA Fixture.refund).all (verifyConfidentialApproval Fixture.verify
        Fixture.agreement (confidentialDigest Fixture.platform Fixture.agreement .refundA
          Fixture.refund)) = true ∧
      ¬ Agree Fixture.platform Fixture.context Fixture.storage Fixture.verify
        (Fixture.prepare .refundA Fixture.refund) Fixture.refund 17
        (Fixture.approvals .refundA Fixture.refund) := by
  refine ⟨Fixture.deployed, Fixture.invokes (by decide), rfl, by decide +kernel,
    Fixture.verify_sound, by decide, by decide +kernel, fun hagree => ?_⟩
  have hreview : (reviewConfidentialOperation Fixture.platform
      (Fixture.prepare .refundA Fixture.refund) 17).map ConfidentialReview.digest =
        .ok (confidentialDigest Fixture.platform Fixture.agreement .refundA Fixture.refund) := by
    decide +kernel
  obtain ⟨review, hok, hdigest⟩ := map_ok.mp hreview
  have haccepted := hagree.accepts.mp ⟨review, hok, hdigest.symm⟩
  have hstopped : isCustomSignatureValid Fixture.platform Fixture.context Fixture.storage
      [⟨Fixture.storage.pool, compileActionsSelector, Fixture.refund⟩] []
      ((authorizedSignature Fixture.agreement .refundA
        (Fixture.approvals .refundA Fixture.refund)).map sentFelt) ≠ .ok validated := by
    decide +kernel
  exact hstopped haccepted

end App20.Confidential
