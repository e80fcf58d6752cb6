import App20.Confidential.Policy
import App20.Lib.Run
import App20.Starknet.Runtime

/-!
# The confidential escrow account

The entry points of `App20ConfidentialEscrow`: the signature check that the pool asks for
before it compiles a private operation, the computation and the callback with which every
operation ends. `isCustomSignatureValid_ok_iff` says what an accepted signature array stands
for.
-/

namespace App20.Confidential

open App20.Lib App20.Lib.Exec App20.Starknet

/-! ## Data -/

/-- Where the account runs. -/
structure Platform where
  contractAddress : ContractAddress
  chainId : Felt
  poseidonHashSpan : List Felt → Felt
  checkEcdsaSignature : Felt → Felt → Felt → Felt → Bool

/-- What a call sees of the chain. The class of an address is `none` when the system call
fails. -/
structure CallContext where
  caller : ContractAddress
  blockTimestamp : U64
  classHashAt : ContractAddress → Option Felt

structure Storage where
  pool : ContractAddress
  poolClass : Felt
  commitment : Felt
  signerA : Felt
  signerB : Felt
  deadline : U64
  settled : Bool

structure Call where
  toAddress : ContractAddress
  selector : Felt
  calldata : List Felt

def computeTag : Felt := shortString "APP20_JOINT_COMPUTE_V1"

/-- `selector!("compile_actions")`. -/
def compileActionsSelector : Felt :=
  0x360f8727b971d0bc6b93fc840d637c077f8ae59eb6ca8ce27fdb5422b688192

def validated : Felt := shortString "VALID"

/-! ## Entry points -/

variable (P : Platform)

def getClassHashAt (cx : CallContext) (address : ContractAddress) : Except AccountPanic Felt :=
  orPanic (cx.classHashAt address) .callReverted

def constructor (cx : CallContext) (pool : ContractAddress)
    (poolClass commitment signerA signerB : Felt) (deadline : U64) :
    Except AccountPanic Storage := do
  check (signerA ≠ 0 ∧ signerB ≠ 0 ∧ signerA ≠ signerB) .badKeys
  check (commitment ≠ 0 ∧ cx.blockTimestamp.val < deadline.val) .badConfig
  check ((← getClassHashAt cx pool) = poolClass) .poolClass
  return ⟨pool, poolClass, commitment, signerA, signerB, deadline, false⟩

/-- The standard signature check of an account is switched off. -/
def isValidSignature (_hash : Felt) (_signature : List Felt) : Felt := 0

/-- `Serde::deserialize` for the terms, at the front of the signature. -/
def readTerms : ActionReader Terms := do
  let (terms, rest) ← expect (Terms.deserialize (← get)) (.error .termsShape)
  set rest
  return terms

/-- What both parties have agreed on: two different assets, for two different parties. -/
structure Terms.Agreed (terms : Terms) : Prop where
  tokens : terms.tokenA ≠ terms.tokenB
  parties : terms.partyA ≠ terms.partyB
  amountA : 0 < terms.amountA.val
  amountB : 0 < terms.amountB.val
  salt : terms.salt ≠ 0

instance (terms : Terms) : Decidable terms.Agreed :=
  decidable_of_iff (terms.tokenA ≠ terms.tokenB ∧ terms.partyA ≠ terms.partyB ∧
      0 < terms.amountA.val ∧ 0 < terms.amountB.val ∧ terms.salt ≠ 0)
    ⟨fun ⟨a, b, c, d, e⟩ => ⟨a, b, c, d, e⟩, fun ⟨a, b, c, d, e⟩ => ⟨a, b, c, d, e⟩⟩

def termsCommitment (s : Storage) (terms : Terms) : Felt :=
  P.poseidonHashSpan ([shortString "APP20_JOINT_TERMS_V1", P.chainId, into s.pool, s.poolClass,
    s.signerA, s.signerB, into s.deadline] ++ terms.serialize)

/-- What the parties sign. -/
def authDigest (s : Storage) (mode : U8) (calldata : List Felt) : Felt :=
  P.poseidonHashSpan [shortString "APP20_JOINT_AUTH_V1", P.chainId, into P.contractAddress,
    into s.pool, s.poolClass, s.commitment, into mode, P.poseidonHashSpan calldata]

def checkSignature (cx : CallContext) (s : Storage) (calls : List Call)
    (additionalData : List Felt) : ActionReader Felt := do
  assert (calls.length = 1 ∧ additionalData = []) (.error .callShape)
  assert ((← get).length = 12) (.error .signatureShape)
  let mode ← expect (tryInto (2 ^ 8) (← take)) .unwrapNone
  assert (mode.val ≤ refundB.val) (.error .badMode)
  let terms ← readTerms
  assert terms.Agreed (.error .termsPolicy)
  assert ((← lift (getClassHashAt cx s.pool)) = s.poolClass) (.error .poolClass)
  assert (termsCommitment P s terms = s.commitment) (.error .termsCommitment)
  let call ← expect calls.head? .indexOutOfBounds
  assert (call.toAddress = s.pool ∧ call.selector = compileActionsSelector) (.error .compileOnly)
  lift (checkActions P.contractAddress call.calldata mode terms)
  let digest := authDigest P s mode call.calldata
  let rA ← take
  let sA ← take
  let rB ← take
  let sB ← take
  if mode ≠ refundB then
    assert (P.checkEcdsaSignature digest s.signerA rA sA = true) (.error .signerA)
  if mode ≠ refundA then
    assert (P.checkEcdsaSignature digest s.signerB rB sB = true) (.error .signerB)
  return validated

def isCustomSignatureValid (cx : CallContext) (s : Storage) (calls : List Call)
    (additionalData signature : List Felt) : Except AccountPanic Felt :=
  (checkSignature P cx s calls additionalData).run' signature

/-- The callback comes from the pool's computation for this account. -/
def privacyCompute (identityKey privateViewkey : Felt) (mode : U8) :
    Except AccountPanic (Felt × U8) := do
  check (identityKey = P.poseidonHashSpan [shortString "IDENTITY_KEY_TAG:V1",
    into P.contractAddress, privateViewkey, into P.contractAddress]) .escrowIdentity
  check (mode.val ≤ refundB.val) .badMode
  return (computeTag, mode)

/-- The rules of time and settlement, against the time of the actual execution. -/
def enforcePhase (cx : CallContext) (mode : U8) : Exec AccountPanic Storage Unit := do
  let s ← get
  if mode = setup ∨ mode = settle then
    assert (cx.blockTimestamp.val < s.deadline.val) (.error .escrowExpired)
    assert (s.settled = false) (.error .alreadySettled)
    if mode = settle then
      set { s with settled := true }
  else
    assert (s.deadline.val ≤ cx.blockTimestamp.val) (.error .refundTooEarly)

def privacyInvokeWithComputation (cx : CallContext) (tag : Felt) (mode : U8) :
    Exec AccountPanic Storage (List OpenNoteDeposit) := do
  let s ← get
  assert (cx.caller = s.pool) (.error .onlyPool)
  assert ((← lift (getClassHashAt cx s.pool)) = s.poolClass) (.error .poolClass)
  assert (tag = computeTag ∧ mode.val ≤ refundB.val) (.error .computeTag)
  enforcePhase cx mode
  return []

/-! ## Accepted signatures -/

/-- A signature array: the mode, the terms and one signature for each party. -/
structure Authorisation where
  mode : U8
  terms : Terms
  rA : Felt
  sA : Felt
  rB : Felt
  sB : Felt

def Authorisation.encode (auth : Authorisation) : List Felt :=
  into auth.mode :: (auth.terms.serialize ++ [auth.rA, auth.sA, auth.rB, auth.sB])

/-- The signature of party A covers the calldata. -/
def SignedByA (s : Storage) (auth : Authorisation) (calldata : List Felt) : Prop :=
  P.checkEcdsaSignature (authDigest P s auth.mode calldata) s.signerA auth.rA auth.sA = true

/-- The signature of party B covers the calldata. -/
def SignedByB (s : Storage) (auth : Authorisation) (calldata : List Felt) : Prop :=
  P.checkEcdsaSignature (authDigest P s auth.mode calldata) s.signerB auth.rB auth.sB = true

/-- What an accepted signature stands for. -/
structure Accepts (cx : CallContext) (s : Storage) (call : Call) (auth : Authorisation)
    (b : Bundle) : Prop where
  toAddress : call.toAddress = s.pool
  selector : call.selector = compileActionsSelector
  calldata : call.calldata = b.encode P.contractAddress
  mode : auth.mode.val ≤ refundB.val
  agreed : auth.terms.Agreed
  poolClass : cx.classHashAt s.pool = some s.poolClass
  commitment : termsCommitment P s auth.terms = s.commitment
  admitted : Admitted P.contractAddress auth.mode auth.terms b
  signedByA : auth.mode ≠ refundB → SignedByA P s auth call.calldata
  signedByB : auth.mode ≠ refundA → SignedByB P s auth call.calldata

section Signatures

variable {P : Platform} {cx : CallContext} {s : Storage}

theorem returns_readTerms_bind {α : Type} {f : Terms → ActionReader α} {data rest : List Felt}
    {a : α} : Returns (readTerms >>= f) data a rest ↔
      ∃ terms tail, data = terms.serialize ++ tail ∧ Returns (f terms) tail a rest := by
  rw [readTerms, bind_assoc, returns_get_bind, bind_assoc, returns_expect_bind]
  constructor
  · rintro ⟨⟨terms, tail⟩, hterms, h⟩
    exact ⟨terms, tail, Terms.deserialize_eq_some.mp hterms, h⟩
  · rintro ⟨terms, tail, rfl, h⟩
    exact ⟨(terms, tail), Terms.deserialize_serialize terms tail, h⟩

theorem getClassHashAt_eq_ok {address : ContractAddress} {c : Felt} :
    getClassHashAt cx address = .ok c ↔ cx.classHashAt address = some c := orPanic_ok_iff

theorem eq_singleton_iff {α : Type} {as : List α} {a : α} :
    as = [a] ↔ as.length = 1 ∧ as.head? = some a := by
  cases as with
  | nil => simp
  | cons b bs => simp [and_comm]

theorem Authorisation.encode_length (auth : Authorisation) : auth.encode.length = 12 := rfl

/-- A signature array is read in one way. -/
theorem Authorisation.encode_injective : Function.Injective Authorisation.encode := by
  rintro ⟨mode, terms, rA, sA, rB, sB⟩ ⟨mode', terms', rA', sA', rB', sB'⟩ h
  obtain ⟨hmode, hrest⟩ := List.cons.inj h
  have hterms := congrArg Terms.deserialize hrest
  rw [Terms.deserialize_serialize, Terms.deserialize_serialize] at hterms
  simp only [Option.some.injEq, Prod.mk.injEq, List.cons.injEq] at hterms
  obtain ⟨rfl, rfl, rfl, rfl, rfl, _⟩ := hterms
  obtain rfl := into_injective.mp hmode
  rfl

/-- A signature array is accepted exactly when it stands for an acceptable authorisation of the
one call. -/
theorem isCustomSignatureValid_ok_iff {calls : List Call} {additionalData signature : List Felt}
    {v : Felt} :
    isCustomSignatureValid P cx s calls additionalData signature = .ok v ↔
      v = validated ∧ additionalData = [] ∧ ∃ call auth b, calls = [call] ∧
        signature = auth.encode ∧ Accepts P cx s call auth b := by
  rw [isCustomSignatureValid, run'_eq_ok]
  simp only [checkSignature, take, returns_assert_bind, returns_get_bind, Reader.returns_take_bind,
    returns_expect_bind, returns_lift_bind, returns_readTerms_bind, tryInto_eq_some,
    getClassHashAt_eq_ok, returns_ite_assert, returns_pure]
  constructor
  · rintro ⟨rest, ⟨hcalls, rfl⟩, hlen, felt, _, rfl, mode, hfelt, hmode, terms, _, rfl, hagreed, _,
      hclass, rfl, hcommitment, call, hcall, hpool, _, hcheck, rA, _, rfl, sA, _, rfl, rB, _, rfl,
      sB, tail, rfl, hA, hB, rfl, rfl⟩
    obtain ⟨b, hb, hadmitted⟩ := (checkActions_ok_iff hagreed.tokens).mp hcheck
    obtain rfl : felt = into mode := Fin.ext hfelt.symm
    have hrest : rest = [] := by
      simp only [Terms.serialize, List.length_cons, List.length_append, List.length_nil] at hlen
      exact List.eq_nil_of_length_eq_zero (by omega)
    subst hrest
    exact ⟨rfl, rfl, call, ⟨mode, terms, rA, sA, rB, sB⟩, b, eq_singleton_iff.mpr ⟨hcalls, hcall⟩,
      rfl, hpool.1, hpool.2, hb, hmode, hagreed, hclass, hcommitment, hadmitted, hA, hB⟩
  · rintro ⟨rfl, rfl, call, auth, b, rfl, rfl, h⟩
    refine ⟨[], ⟨rfl, rfl⟩, auth.encode_length, _, _, rfl, auth.mode, rfl, h.mode, auth.terms, _,
      rfl, h.agreed, _, h.poolClass, rfl, h.commitment, call, rfl, ⟨h.toAddress, h.selector⟩, (),
      ?_, _, _, rfl, _, _, rfl, _, _, rfl, _, _, rfl, h.signedByA, h.signedByB, rfl, rfl⟩
    exact (checkActions_ok_iff h.agreed.tokens).mpr ⟨b, h.calldata, h.admitted⟩

end Signatures

end App20.Confidential
