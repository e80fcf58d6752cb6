import App20.Confidential.Account
import App20.Domain.BigInt
import App20.Lib.JsonText

/-!
# The wallet's review of a private operation

What a wallet checks before it signs: the agreement in its normal form, the one call of the pool's
compiler, and the whole list of actions, whose amounts it adds up in integers without a bound. The
signatures are put into the array that the account reads.

* `review_ok_iff`: the calldata that the wallet accepts.
-/

namespace App20.Confidential

open App20.Lib App20.Lib.Exec App20.Domain App20.Starknet

/-! ## Texts of felts -/

/-- The number of a text `/^(?:0x[\da-fA-F]+|\d+)$/` -/
def readFelt (value : Text) : Option Nat :=
  match value with
  | '0' :: 'x' :: ds =>
    if ds ≠ [] ∧ ds.all isHexDigit = true then some (ofDigits 16 ds) else none
  | ds => if ds ≠ [] ∧ ds.all isDecDigit = true then some (ofDigits 10 ds) else none

def confidentialFelt (value : Text) (nonzero : Bool) : Except String Text :=
  match readFelt value with
  | none => .error "Expected a felt string."
  | some n =>
    if n < (if nonzero then 1 else 0) ∨ fieldPrime ≤ n then .error "Felt out of range."
    else .ok (hex n)

def addressLimit : Nat := 2 ^ 251 - 256

def bigIntOf (value : Text) : Nat := (readFelt value).getD 0

def address (value : Text) : Except String Text := do
  let normalized ← confidentialFelt value true
  throwIf (addressLimit ≤ bigIntOf normalized) "Contract address out of range."
  return normalized

def amount (value : Text) : Except String Text := do
  throwIf (value = [] ∨ value.all isDecDigit = false ∨ ofDigits 10 value = 0 ∨
    2 ^ 128 ≤ ofDigits 10 value) "Amounts must be positive u128 integer strings."
  return decimal (ofDigits 10 value)

/-- `sameFelt`; `BigInt` throws where a text is no integer. -/
def sameFelt (a b : Text) : Except String Bool :=
  match parseBigInt a, parseBigInt b with
  | some m, some n => .ok (m == n)
  | _, _ => .error "Cannot convert a text to a BigInt"

def feltOf (value : Text) : Felt := Fin.ofNat fieldPrime (bigIntOf value)

/-! ## Agreements -/

structure ConfidentialTerms where
  tokenA : Text
  tokenB : Text
  amountA : Text
  amountB : Text
  partyA : Text
  partyB : Text
  salt : Text
  deriving DecidableEq

structure ConfidentialAgreement where
  schema : Text
  chainId : Text
  pool : Text
  poolClassHash : Text
  escrowClassHash : Text
  signerA : Text
  signerB : Text
  deadline : Int
  terms : ConfidentialTerms
  commitment : Text
  address : Text
  deriving DecidableEq

def confidentialRfqSchema : Text := "app20/confidential-rfq/v1".toList

def confidentialTermsFelts (t : ConfidentialTerms) : List Text :=
  [t.tokenA, t.tokenB, t.amountA, t.amountB, t.partyA, t.partyB, t.salt]

def normalTerms (t : ConfidentialTerms) : Except String ConfidentialTerms := do
  let tokenA ← Confidential.address t.tokenA
  let tokenB ← Confidential.address t.tokenB
  let amountA ← amount t.amountA
  let amountB ← amount t.amountB
  let partyA ← Confidential.address t.partyA
  let partyB ← Confidential.address t.partyB
  let salt ← confidentialFelt t.salt true
  return ⟨tokenA, tokenB, amountA, amountB, partyA, partyB, salt⟩

/-- `input.address ? address(input.address) : '0x0'` -/
def normalAddress (value : Option Text) : Except String Text :=
  match value with
  | none | some [] => .ok "0x0".toList
  | some value => Confidential.address value

variable (P : Platform)

def poseidon (values : List Felt) : Text := hex (P.poseidonHashSpan values).val

/-- The agreement of the input's fields, whose commitment is not read. -/
def createConfidentialAgreement (input : ConfidentialAgreement) (newAddress : Option Text) :
    Except String ConfidentialAgreement := do
  let terms ← normalTerms input.terms
  throwIf (terms.tokenA = terms.tokenB ∨ terms.partyA = terms.partyB)
    "Distinct assets and recipients required."
  throwIf (2 ^ 53 - 1 < input.deadline ∨ input.deadline ≤ 0) "Invalid deadline."
  let chainId ← confidentialFelt input.chainId true
  let pool ← Confidential.address input.pool
  let poolClassHash ← confidentialFelt input.poolClassHash true
  let escrowClassHash ← confidentialFelt input.escrowClassHash true
  let signerA ← confidentialFelt input.signerA true
  let signerB ← confidentialFelt input.signerB true
  throwIf (signerA = signerB) "Independent signing keys required."
  let commitment := poseidon P ([shortString "APP20_JOINT_TERMS_V1", feltOf chainId, feltOf pool,
    feltOf poolClassHash, feltOf signerA, feltOf signerB,
    Fin.ofNat fieldPrime input.deadline.toNat] ++ (confidentialTermsFelts terms).map feltOf)
  let address ← normalAddress newAddress
  return ⟨confidentialRfqSchema, chainId, pool, poolClassHash, escrowClassHash, signerA, signerB,
    input.deadline, terms, commitment, address⟩

def normalizeConfidentialAgreement (value : ConfidentialAgreement) :
    Except String ConfidentialAgreement := do
  throwIf (value.schema ≠ confidentialRfqSchema) "Unsupported confidential RFQ version."
  let undeployed ← sameFelt value.address "0".toList
  let result ← createConfidentialAgreement P value (if undeployed then none else some value.address)
  let same ← sameFelt result.commitment value.commitment
  throwIf (same = false) "Terms commitment mismatch."
  return result

def confidentialConstructor (agreement : ConfidentialAgreement) : Except String (List Text) := do
  let a ← normalizeConfidentialAgreement P agreement
  return [a.pool, a.poolClassHash, a.commitment, a.signerA, a.signerB, decimal a.deadline]

/-! ## Modes -/

inductive ConfidentialMode where
  | setup | settle | refundA | refundB
  deriving DecidableEq

inductive ConfidentialRole where
  | a | b
  deriving DecidableEq

/-- `CONFIDENTIAL_MODES` -/
def ConfidentialMode.code : ConfidentialMode → U8
  | .setup => Confidential.setup
  | .settle => Confidential.settle
  | .refundA => Confidential.refundA
  | .refundB => Confidential.refundB

def confidentialRequiredSigners : ConfidentialMode → List ConfidentialRole
  | .refundA => [.a]
  | .refundB => [.b]
  | .setup | .settle => [.a, .b]

/-! ## Invocations -/

structure ConfidentialInvocation where
  senderAddress : Text
  calldata : List Text
  signature : List Text

structure ConfidentialPrepared where
  agreement : ConfidentialAgreement
  mode : ConfidentialMode
  invocation : ConfidentialInvocation
  digest : Text

def confidentialDigest (a : ConfidentialAgreement) (mode : ConfidentialMode)
    (inner : List Felt) : Text :=
  poseidon P [shortString "APP20_JOINT_AUTH_V1", feltOf a.chainId, feltOf a.address, feltOf a.pool,
    feltOf a.poolClassHash, feltOf a.commitment, into mode.code, P.poseidonHashSpan inner]

/-- The first four texts of the calldata, and the rest. -/
def callHeader : List Text → Option (Text × Text × Text × Text × List Text)
  | version :: pool :: selector :: length :: rest => some (version, pool, selector, length, rest)
  | _ => none

/-- The felts of the inner calldata. A length is written as a whole number, on which `Number` and
`BigInt` agree. -/
def confidentialInner (calldata : List Text) : Except String (List Felt) :=
  match callHeader calldata with
  | none => .error "Expected exactly one bounded compile call."
  | some (version, _, _, length, rest) => do
    throwIf (calldata.length < 7 ∨ 4096 < calldata.length)
      "Expected exactly one bounded compile call."
    let one ← sameFelt version "1".toList
    throwIf (one = false ∨ parseBigInt length ≠ some (calldata.length - 4 : Int))
      "Expected exactly one bounded compile call."
    let inner ← rest.mapM fun value => confidentialFelt value false
    return inner.map feltOf

def curveOrder : Int := 0x800000000000010ffffffffffffffffb781126dcae7b2321e66a241adc64d2f

/-! ## The walk over the actions -/

/-- What the loop remembers. -/
structure Tally where
  tradedA : Nat
  tradedB : Nat
  refunded : Nat
  callback : Bool
  inputs : Nat
  outputs : Nat

abbrev ReviewReader := Reader String Felt

namespace Review

def take : ReviewReader Felt := Reader.take "Truncated private action."

def skip (n : Nat) : ReviewReader Unit := Reader.skip "Truncated private action." n

def Is (v : Felt) (value : Text) : Prop := v.val = bigIntOf value deriving Decidable

def TokenOk (t : ConfidentialTerms) (mode : ConfidentialMode) (v : Felt) : Prop :=
  (Is v t.tokenA ∧ mode ≠ .refundB) ∨ (Is v t.tokenB ∧ mode ≠ .refundA) deriving Decidable

def RecipientOk (a : ConfidentialAgreement) (mode : ConfidentialMode) (v : Felt) : Prop :=
  (Is v a.terms.partyA ∧ mode ≠ .refundB) ∨ (Is v a.terms.partyB ∧ mode ≠ .refundA) ∨
    (mode = .setup ∧ Is v a.address) deriving Decidable

def tokenAllowed (t : ConfidentialTerms) (mode : ConfidentialMode) (v : Felt) : ReviewReader Unit :=
  assert (TokenOk t mode v) "Asset violates refund policy."

def recipientAllowed (a : ConfidentialAgreement) (mode : ConfidentialMode) (v : Felt) :
    ReviewReader Unit :=
  assert (RecipientOk a mode v) "Recipient violates policy."

/-- The end of the branch of the encrypted notes. -/
def countOutput (a : ConfidentialAgreement) (mode : ConfidentialMode) (recipient token value : Felt)
    (s : Tally) : ReviewReader Tally :=
  if mode = .settle then
    if Is token a.terms.tokenA ∧ Is recipient a.terms.partyB then
      pure { s with outputs := s.outputs + 1, tradedA := s.tradedA + value.val }
    else if Is token a.terms.tokenB ∧ Is recipient a.terms.partyA then
      pure { s with outputs := s.outputs + 1, tradedB := s.tradedB + value.val }
    else do
      assert ((Is token a.terms.tokenA ∧ Is recipient a.terms.partyA) ∨
        (Is token a.terms.tokenB ∧ Is recipient a.terms.partyB)) "Surplus recipient changed."
      return { s with outputs := s.outputs + 1 }
  else do
    recipientAllowed a mode recipient
    return { s with outputs := s.outputs + 1, refunded := s.refunded + value.val }

/-- One iteration of the loop. -/
def reviewAction (a : ConfidentialAgreement) (mode : ConfidentialMode) (viewingKey : Int)
    (count : Nat) (s : Tally) (i : Nat) : ReviewReader Tally := do
  let kind ← take
  match kind.val with
  | 0 =>
    assert (mode = .setup) "Registration outside setup."
    skip 1
    return s
  | 1 =>
    recipientAllowed a mode (← take)
    skip 3
    return s
  | 2 =>
    recipientAllowed a mode (← take)
    skip 3
    tokenAllowed a.terms mode (← take)
    skip 1
    return s
  | 3 =>
    assert (mode ≠ .setup) "Setup cannot move value."
    let recipient ← take
    skip 1
    let token ← take
    let value ← take
    skip 2
    tokenAllowed a.terms mode token
    assert (value.val < 2 ^ 128) "Invalid output amount."
    countOutput a mode recipient token value s
  | 6 =>
    assert (mode ≠ .setup) "Setup cannot spend notes."
    skip 1
    tokenAllowed a.terms mode (← take)
    skip 1
    return { s with inputs := s.inputs + 1 }
  | 9 =>
    assert (i + 1 = count ∧ s.callback = false) "Invalid identity-bound callback."
    assert (Is (← take) a.address) "Invalid identity-bound callback."
    assert ((← take) = 2) "Invalid identity-bound callback."
    let key ← take
    assert ((key.val : Int) = viewingKey) "Invalid identity-bound callback."
    assert ((← take) = into mode.code) "Invalid identity-bound callback."
    assert ((← take) = 0) "Invalid identity-bound callback."
    return { s with callback := true }
  | _ => throw "Only encrypted notes and the escrow computation are allowed."

/-- What must have been paid. -/
def reviewPayment (t : ConfidentialTerms) (mode : ConfidentialMode) (s : Tally) :
    ReviewReader Unit := do
  assert (¬ (mode = .settle ∧ (s.inputs = 0 ∨ s.tradedA ≠ bigIntOf t.amountA ∨
    s.tradedB ≠ bigIntOf t.amountB))) "Swap outputs differ from the agreed amounts."
  assert (¬ ((mode = .refundA ∨ mode = .refundB) ∧ (s.inputs = 0 ∨ s.refunded = 0)))
    "Refund must return an input asset."

def reviewActions (a : ConfidentialAgreement) (mode : ConfidentialMode) (viewingKey : Int) :
    ReviewReader Tally := do
  assert (Is (← take) a.address) "Escrow identity mismatch."
  let key ← take
  assert ((key.val : Int) = viewingKey) "Escrow identity mismatch."
  let count ← take
  assert (1 ≤ count.val ∧ count.val ≤ 64) "Invalid action count."
  let s ← (List.range count.val).foldlM (reviewAction a mode viewingKey count.val)
    ⟨0, 0, 0, false, 0, 0⟩
  let rest ← get
  assert (rest = [] ∧ s.callback = true) "Trailing data or missing callback."
  reviewPayment a.terms mode s
  return s

end Review

/-! ## The review -/

structure ConfidentialReview where
  mode : ConfidentialMode
  digest : Text
  commitment : Text
  account : Text
  chainId : Text
  pool : Text
  deadline : Int
  terms : ConfidentialTerms
  requiredSigners : List ConfidentialRole
  inputs : Nat
  outputs : Nat

/-- The call is one of the pinned pool's compiler. -/
def compilesOnPool (a : ConfidentialAgreement) (invocation : ConfidentialInvocation) :
    Except String Unit :=
  match callHeader invocation.calldata with
  | none => .error "Operation must compile on the pinned pool."
  | some (_, pool, selector, _, _) => do
    let sender ← sameFelt invocation.senderAddress a.pool
    let target ← sameFelt pool a.pool
    let compile ← sameFelt selector (hex compileActionsSelector.val)
    throwIf (sender = false ∨ target = false ∨ compile = false)
      "Operation must compile on the pinned pool."

def reviewConfidentialOperation (prepared : ConfidentialPrepared) (viewingKey : Int) :
    Except String ConfidentialReview := do
  let a ← normalizeConfidentialAgreement P prepared.agreement
  let requiredSigners := confidentialRequiredSigners prepared.mode
  throwIf (a.address = "0x0".toList ∨ viewingKey ≤ 0 ∨ curveOrder / 2 < viewingKey)
    "Deployed account and canonical escrow viewing material required."
  let inner ← confidentialInner prepared.invocation.calldata
  compilesOnPool a prepared.invocation
  let s ← (Review.reviewActions a prepared.mode viewingKey).run' inner
  let digest := confidentialDigest P a prepared.mode inner
  let same ← sameFelt digest prepared.digest
  throwIf (same = false) "Private operation digest mismatch."
  return ⟨prepared.mode, digest, a.commitment, a.address, a.chainId, a.pool, a.deadline, a.terms,
    requiredSigners, s.inputs, s.outputs⟩

/-! ## Approvals -/

structure ConfidentialApproval where
  role : ConfidentialRole
  digest : Text
  signature : Text × Text

/-- `ec.starkCurve.verify` of a signature, over a digest and a public key; `none` when the library
throws. -/
abbrev Verify := Int → Int → Text → Text → Option Bool

/-- `padStart(64, '0')` -/
def padded (s : Text) : Text := List.replicate (64 - s.length) '0' ++ s

def signerOf (a : ConfidentialAgreement) : ConfidentialRole → Text
  | .a => a.signerA
  | .b => a.signerB

def publicKeyOf (a : ConfidentialAgreement) (role : ConfidentialRole) : Text :=
  padded ((signerOf a role).drop 2)

def verifyConfidentialApproval (verify : Verify) (a : ConfidentialAgreement) (digest : Text)
    (approval : ConfidentialApproval) : Bool :=
  match sameFelt digest approval.digest, parseBigInt approval.signature.1,
      parseBigInt approval.signature.2 with
  | .ok true, some r, some s =>
    match verify r s digest ("02".toList ++ publicKeyOf a approval.role) with
    | none => false
    | some true => true
    | some false => (verify r s digest ("03".toList ++ publicKeyOf a approval.role)).getD false
  | _, _, _ => false

def signatureFor (approvals : List ConfidentialApproval) (role : ConfidentialRole) : List Text :=
  match approvals.find? fun approval => approval.role = role with
  | some approval => [approval.signature.1, approval.signature.2]
  | none => ["0".toList, "0".toList]

def authorizedSignature (a : ConfidentialAgreement) (mode : ConfidentialMode)
    (approvals : List ConfidentialApproval) : List Text :=
  decimal (mode.code.val : Int) :: (confidentialTermsFelts a.terms ++ signatureFor approvals .a ++
    signatureFor approvals .b)

/-- Every required signer approves once. -/
def ExactlyOnce (mode : ConfidentialMode) (approvals : List ConfidentialApproval) : Prop :=
  (approvals.map ConfidentialApproval.role).Nodup ∧
    approvals.length = (confidentialRequiredSigners mode).length ∧
    ∀ role ∈ confidentialRequiredSigners mode, role ∈ approvals.map ConfidentialApproval.role

instance (mode : ConfidentialMode) (approvals : List ConfidentialApproval) :
    Decidable (ExactlyOnce mode approvals) := inferInstanceAs (Decidable (_ ∧ _))

def authorizeConfidentialOperation (verify : Verify) (prepared : ConfidentialPrepared)
    (viewingKey : Int) (approvals : List ConfidentialApproval) :
    Except String ConfidentialInvocation := do
  let review ← reviewConfidentialOperation P prepared viewingKey
  throwIf (¬ ExactlyOnce prepared.mode approvals) "Every required party must approve exactly once."
  throwIf (approvals.all (verifyConfidentialApproval verify prepared.agreement review.digest) =
    false) "Invalid or mismatched approval."
  return { prepared.invocation with
    signature := authorizedSignature prepared.agreement prepared.mode approvals }

/-! ## What the walk reads -/

/-- The actions without a callback that stay below a bound are added up. -/
def Tally.add (mode : ConfidentialMode) (terms : Terms) (s : Tally) (a : Action) : Tally where
  tradedA := s.tradedA + if mode = .settle then a.sent terms.tokenA terms.partyB else 0
  tradedB := s.tradedB + if mode = .settle then a.sent terms.tokenB terms.partyA else 0
  refunded := s.refunded + if mode = .settle then 0 else a.output
  callback := s.callback
  inputs := s.inputs + if a.isInput = true then 1 else 0
  outputs := s.outputs + if a.kind = 3 then 1 else 0

/-- The texts of an agreement against the values that the account sees. -/
structure Matches (a : ConfidentialAgreement) (account : ContractAddress) (terms : Terms) :
    Prop where
  tokenA : bigIntOf a.terms.tokenA = terms.tokenA.val
  tokenB : bigIntOf a.terms.tokenB = terms.tokenB.val
  amountA : bigIntOf a.terms.amountA = terms.amountA.val
  amountB : bigIntOf a.terms.amountB = terms.amountB.val
  partyA : bigIntOf a.terms.partyA = terms.partyA.val
  partyB : bigIntOf a.terms.partyB = terms.partyB.val
  address : bigIntOf a.address = account.val
  distinct : terms.tokenA ≠ terms.tokenB

theorem code_refundB {mode : ConfidentialMode} : mode = .refundB ↔ mode.code = refundB := by
  cases mode <;> decide

theorem code_refundA {mode : ConfidentialMode} : mode = .refundA ↔ mode.code = refundA := by
  cases mode <;> decide

theorem code_setup {mode : ConfidentialMode} : mode = .setup ↔ mode.code = setup := by
  cases mode <;> decide

theorem code_settle {mode : ConfidentialMode} : mode = .settle ↔ mode.code = settle := by
  cases mode <;> decide

variable {data : List Felt}

namespace Review

variable {a : ConfidentialAgreement} {self : ContractAddress} {terms : Terms}
  {mode : ConfidentialMode} {viewingKey : Felt} {count : Nat}

variable {v : Felt} {act : Action}

theorem val_eq_iff {w : Felt} : (v.val : Int) = w.val ↔ v = w := by
  rw [Fin.ext_iff]
  omega

theorem is_iff {value : Text} {address : ContractAddress} (h : bigIntOf value = address.val) :
    Is v value ↔ v = into address := by
  unfold Is
  rw [h, Fin.ext_iff, into_val]

theorem tokenOk_iff (h : Matches a self terms) :
    TokenOk a.terms mode v ↔ TokenAllowed terms mode.code v := by
  unfold TokenOk TokenAllowed
  rw [is_iff h.tokenA, is_iff h.tokenB, ne_eq, ne_eq, code_refundB, code_refundA]

theorem recipientOk_iff (h : Matches a self terms) :
    RecipientOk a mode v ↔ RecipientAllowed self terms mode.code v := by
  unfold RecipientOk RecipientAllowed
  rw [is_iff h.partyA, is_iff h.partyB, is_iff h.address, ne_eq, ne_eq, code_refundB, code_refundA,
    code_setup]

/-- What an iteration does with the action that it reads. -/
def Step (self : ContractAddress) (mode : ConfidentialMode) (terms : Terms) (viewingKey : Felt)
    (count : Nat) (s : Tally) (i : Nat) (act : Action) (t : Tally) : Prop :=
  (Permitted self mode.code terms act ∧ t = s.add mode terms act) ∨
    (act = callback self viewingKey mode.code ∧ i + 1 = count ∧ s.callback = false ∧
      t = { s with callback := true })

theorem step_iff_permitted {s t : Tally} {i : Nat} (h : act.kind ≠ 9) :
    Step self mode terms viewingKey count s i act t ↔
      Permitted self mode.code terms act ∧ t = s.add mode terms act := by
  refine ⟨fun hstep => hstep.resolve_right ?_, Or.inl⟩
  rintro ⟨rfl, _⟩
  exact h rfl

/-- An action that moves nothing leaves the tally. -/
theorem add_idle {s : Tally} (hsent : ∀ t r, act.sent t r = 0) (houtput : act.output = 0)
    (hinput : act.isInput = false) (hkind : act.kind ≠ 3) : s.add mode terms act = s := by
  cases s
  simp [Tally.add, hsent, houtput, hinput, hkind]

theorem returns_countOutput (h : Matches a self terms) {recipient token : Felt} {amount : U128}
    {s t : Tally} {rest : List Felt} (x y z : Felt) :
    Returns (countOutput a mode recipient token (into amount) s) data t rest ↔
      OutputAllowed self mode.code terms recipient token ∧
        t = s.add mode terms (.createEncNote recipient x token amount y z) ∧ rest = data := by
  have hnote : s.add mode terms (.createEncNote recipient x token amount y z) =
      ⟨s.tradedA + if mode = .settle then
          if token = into terms.tokenA ∧ recipient = into terms.partyB then amount.val else 0
          else 0,
        s.tradedB + if mode = .settle then
          if token = into terms.tokenB ∧ recipient = into terms.partyA then amount.val else 0
          else 0,
        s.refunded + if mode = .settle then 0 else amount.val, s.callback, s.inputs,
        s.outputs + 1⟩ := rfl
  unfold countOutput OutputAllowed IsChange
  rw [hnote]
  simp only [is_iff h.tokenA, is_iff h.partyB, is_iff h.tokenB, is_iff h.partyA]
  by_cases hmode : mode = .settle
  · rw [if_pos hmode, if_pos (code_settle.mp hmode)]
    simp only [if_pos hmode]
    by_cases hA : token = into terms.tokenA ∧ recipient = into terms.partyB
    · have hB : ¬ (token = into terms.tokenB ∧ recipient = into terms.partyA) :=
        not_both h.distinct hA.1
      rw [if_pos hA, returns_pure, if_pos hA, if_neg hB]
      exact ⟨fun hreturns => ⟨Or.inl hA, hreturns⟩, fun hreturns => hreturns.2⟩
    · rw [if_neg hA, if_neg hA]
      by_cases hB : token = into terms.tokenB ∧ recipient = into terms.partyA
      · rw [if_pos hB, returns_pure, if_pos hB]
        exact ⟨fun hreturns => ⟨Or.inr (Or.inl hB), hreturns⟩, fun hreturns => hreturns.2⟩
      · rw [if_neg hB, returns_assert_bind, returns_pure, if_neg hB, is_iff h.tokenA,
          is_iff h.partyA, is_iff h.tokenB, is_iff h.partyB]
        constructor
        · rintro ⟨hchange, rfl, rfl⟩
          exact ⟨Or.inr (Or.inr hchange), rfl, rfl⟩
        · rintro ⟨hallowed, rfl, rfl⟩
          exact ⟨(hallowed.resolve_left hA).resolve_left hB, rfl, rfl⟩
  · have hcode : ¬ mode.code = settle := fun heq => hmode (code_settle.mpr heq)
    rw [if_neg hmode, if_neg hcode, recipientAllowed, returns_assert_bind, returns_pure,
      recipientOk_iff h]
    simp only [if_neg hmode, into_val, Nat.add_zero]

/-- What an iteration does with the actions of a kind. -/
def Reads (a : ConfidentialAgreement) (self : ContractAddress) (terms : Terms)
    (mode : ConfidentialMode) (viewingKey : Felt) (count : Nat) (s : Tally) (i kind : Nat) : Prop :=
  ∀ tail t rest, Returns (reviewAction a mode (viewingKey.val : Int) count s i)
    (lengthFelt kind :: tail) t rest ↔ ∃ act : Action, act.kind = kind ∧ tail = act.body ++ rest ∧
        Step self mode terms viewingKey count s i act t

variable {s t : Tally} {i : Nat} {tail rest : List Felt}

theorem reads_setViewingKey : Reads a self terms mode viewingKey count s i 0 := by
  intro tail t rest
  have hval : (lengthFelt 0).val = 0 := rfl
  rw [reviewAction, take, Reader.returns_take_cons_bind]
  simp only [hval, skip, returns_assert_bind, Reader.returns_skip_succ_bind,
    Reader.returns_skip_zero_bind, returns_pure]
  constructor
  · rintro ⟨hmode, x, _, rfl, rfl, rfl⟩
    exact ⟨.setViewingKey x, rfl, rfl, Or.inl ⟨code_setup.mp hmode,
      (add_idle (fun _ _ => rfl) rfl rfl (by simp [Action.kind])).symm⟩⟩
  · rintro ⟨act, hkind, rfl, hstep⟩
    obtain ⟨hmode, rfl⟩ := (step_iff_permitted (by omega)).mp hstep
    cases act <;> simp [Action.kind] at hkind
    exact ⟨code_setup.mpr hmode, _, _, rfl,
      add_idle (fun _ _ => rfl) rfl rfl (by simp [Action.kind]), rfl⟩

section

variable (h : Matches a self terms)

include h

theorem reads_openChannel : Reads a self terms mode viewingKey count s i 1 := by
  intro tail t rest
  have hval : (lengthFelt 1).val = 1 := rfl
  rw [reviewAction, take, Reader.returns_take_cons_bind]
  simp only [hval, skip, recipientAllowed, returns_assert_bind, Reader.returns_take_bind,
    Reader.returns_skip_succ_bind, Reader.returns_skip_zero_bind, returns_pure, recipientOk_iff h]
  constructor
  · rintro ⟨recipient, _, rfl, hallowed, x, _, rfl, y, _, rfl, z, _, rfl, rfl, rfl⟩
    exact ⟨.openChannel recipient x y z, rfl, rfl, Or.inl ⟨hallowed,
      (add_idle (fun _ _ => rfl) rfl rfl (by simp [Action.kind])).symm⟩⟩
  · rintro ⟨act, hkind, rfl, hstep⟩
    obtain ⟨hallowed, rfl⟩ := (step_iff_permitted (by omega)).mp hstep
    cases act <;> simp [Action.kind] at hkind
    exact ⟨_, _, rfl, hallowed, _, _, rfl, _, _, rfl, _, _, rfl,
      add_idle (fun _ _ => rfl) rfl rfl (by simp [Action.kind]), rfl⟩

theorem reads_openSubchannel : Reads a self terms mode viewingKey count s i 2 := by
  intro tail t rest
  have hval : (lengthFelt 2).val = 2 := rfl
  rw [reviewAction, take, Reader.returns_take_cons_bind]
  simp only [hval, skip, recipientAllowed, tokenAllowed, returns_assert_bind,
    Reader.returns_take_bind, Reader.returns_skip_succ_bind, Reader.returns_skip_zero_bind,
    returns_pure, recipientOk_iff h, tokenOk_iff h]
  constructor
  · rintro ⟨recipient, _, rfl, hrecipient, x, _, rfl, y, _, rfl, z, _, rfl, token, _, rfl,
      htoken, w, _, rfl, rfl, rfl⟩
    exact ⟨.openSubchannel recipient x y z token w, rfl, rfl, Or.inl ⟨⟨hrecipient, htoken⟩,
      (add_idle (fun _ _ => rfl) rfl rfl (by simp [Action.kind])).symm⟩⟩
  · rintro ⟨act, hkind, rfl, hstep⟩
    obtain ⟨hallowed, rfl⟩ := (step_iff_permitted (by omega)).mp hstep
    cases act <;> simp [Action.kind] at hkind
    exact ⟨_, _, rfl, hallowed.1, _, _, rfl, _, _, rfl, _, _, rfl, _, _, rfl, hallowed.2, _, _,
      rfl, add_idle (fun _ _ => rfl) rfl rfl (by simp [Action.kind]), rfl⟩

theorem reads_createEncNote : Reads a self terms mode viewingKey count s i 3 := by
  intro tail t rest
  have hval : (lengthFelt 3).val = 3 := rfl
  rw [reviewAction, take, Reader.returns_take_cons_bind]
  simp only [hval, skip, tokenAllowed, returns_assert_bind, Reader.returns_take_bind,
    Reader.returns_skip_succ_bind, Reader.returns_skip_zero_bind, tokenOk_iff h, ne_eq, code_setup]
  constructor
  · rintro ⟨hmode, recipient, _, rfl, x, _, rfl, token, _, rfl, value, _, rfl, y, _, rfl, z, _, rfl,
      htoken, hamount, hcount⟩
    have hvalue : value = into (⟨value.val, hamount⟩ : U128) := rfl
    rw [hvalue] at hcount
    obtain ⟨houtput, rfl, rfl⟩ := (returns_countOutput h x y z).mp hcount
    exact ⟨.createEncNote recipient x token ⟨value.val, hamount⟩ y z, rfl, rfl,
      Or.inl ⟨⟨hmode, htoken, houtput⟩, rfl⟩⟩
  · rintro ⟨act, hkind, rfl, hstep⟩
    obtain ⟨hallowed, rfl⟩ := (step_iff_permitted (by omega)).mp hstep
    cases act <;> simp [Action.kind] at hkind
    next recipient x token amount y z =>
    exact ⟨hallowed.1, _, _, rfl, _, _, rfl, _, _, rfl, _, _, rfl, _, _, rfl, _, _, rfl,
      hallowed.2.1, amount.isLt, (returns_countOutput h x y z).mpr ⟨hallowed.2.2, rfl, rfl⟩⟩

theorem reads_useNote : Reads a self terms mode viewingKey count s i 6 := by
  intro tail t rest
  have hval : (lengthFelt 6).val = 6 := rfl
  have hadd : ∀ x token y, { s with inputs := s.inputs + 1 } =
      s.add mode terms (.useNote x token y) := by
    intro x token y
    simp [Tally.add, Action.sent, Action.output, Action.isInput, Action.kind]
  rw [reviewAction, take, Reader.returns_take_cons_bind]
  simp only [hval, skip, tokenAllowed, returns_assert_bind, Reader.returns_take_bind,
    Reader.returns_skip_succ_bind, Reader.returns_skip_zero_bind, returns_pure, tokenOk_iff h,
    ne_eq, code_setup]
  constructor
  · rintro ⟨hmode, x, _, rfl, token, _, rfl, htoken, y, _, rfl, rfl, rfl⟩
    exact ⟨.useNote x token y, rfl, rfl, Or.inl ⟨⟨hmode, htoken⟩, hadd x token y⟩⟩
  · rintro ⟨act, hkind, rfl, hstep⟩
    obtain ⟨hallowed, rfl⟩ := (step_iff_permitted (by omega)).mp hstep
    cases act <;> simp [Action.kind] at hkind
    exact ⟨hallowed.1, _, _, rfl, _, _, rfl, hallowed.2, _, _, rfl, (hadd _ _ _).symm, rfl⟩

theorem reads_computeAndInvoke : Reads a self terms mode viewingKey count s i 9 := by
  intro tail t rest
  have hval : (lengthFelt 9).val = 9 := rfl
  rw [reviewAction, take, Reader.returns_take_cons_bind]
  simp only [hval, returns_assert_bind, Reader.returns_take_bind, returns_pure, is_iff h.address,
    val_eq_iff]
  constructor
  · rintro ⟨⟨hlast, hcallback⟩, _, _, rfl, rfl, _, _, rfl, rfl, _, _, rfl, rfl, _, _, rfl, rfl,
      _, _, rfl, rfl, rfl, rfl⟩
    exact ⟨callback self _ mode.code, rfl, rfl, Or.inr ⟨rfl, hlast, hcallback, rfl⟩⟩
  · rintro ⟨act, hkind, rfl, ⟨hpermitted, _⟩ | ⟨rfl, hlast, hcallback, rfl⟩⟩
    · cases act <;> simp [Action.kind] at hkind
      exact hpermitted.elim
    · exact ⟨⟨hlast, hcallback⟩, _, _, rfl, rfl, _, _, rfl, rfl, _, _, rfl, rfl, _, _, rfl, rfl,
        _, _, rfl, rfl, rfl, rfl⟩

theorem reads_of_kind {kind : Nat} (hkind : kind ∈ admittedKinds) :
    Reads a self terms mode viewingKey count s i kind := by
  simp only [admittedKinds, List.mem_cons, List.not_mem_nil, or_false] at hkind
  rcases hkind with rfl | rfl | rfl | rfl | rfl | rfl
  · exact reads_setViewingKey
  · exact reads_openChannel h
  · exact reads_openSubchannel h
  · exact reads_createEncNote h
  · exact reads_useNote h
  · exact reads_computeAndInvoke h

end

/-- Every other kind stops the loop. -/
theorem kind_of_returns {key : Int} (h : Returns (reviewAction a mode key count s i) data t rest) :
    ∃ kind ∈ admittedKinds, ∃ tail, data = lengthFelt kind :: tail := by
  rw [reviewAction, take, Reader.returns_take_bind] at h
  obtain ⟨k, tail, rfl, h⟩ := h
  have hkind : k.val ∈ admittedKinds := by
    split at h <;> first | exact absurd h not_returns_throw | simp [admittedKinds, *]
  have hlt : k.val < 2 ^ 32 := by
    simp only [admittedKinds, List.mem_cons, List.not_mem_nil, or_false] at hkind
    omega
  exact ⟨k.val, hkind, tail, by rw [← eq_lengthFelt rfl hlt]⟩

theorem Step.kind_mem (h : Step self mode terms viewingKey count s i act t) :
    act.kind ∈ admittedKinds := by
  rcases h with ⟨hpermitted, _⟩ | ⟨rfl, _⟩
  · exact hpermitted.kind_mem
  · simp [callback, Action.kind, admittedKinds]

/-- One iteration reads one action of the grammar and takes the step of the policy. -/
theorem returns_reviewAction (h : Matches a self terms) :
    Returns (reviewAction a mode (viewingKey.val : Int) count s i) data t rest ↔
      ∃ act : Action, data = act.encode ++ rest ∧
        Step self mode terms viewingKey count s i act t := by
  constructor
  · intro hreturns
    obtain ⟨kind, hkind, tail, rfl⟩ := kind_of_returns hreturns
    obtain ⟨act, rfl, rfl, hstep⟩ := (reads_of_kind h hkind tail t rest).mp hreturns
    exact ⟨act, rfl, hstep⟩
  · rintro ⟨act, rfl, hstep⟩
    exact (reads_of_kind h hstep.kind_mem _ t rest).mpr ⟨act, rfl, rfl, hstep⟩

end Review

/-! ## The whole walk -/

def Tally.addAll (mode : ConfidentialMode) (terms : Terms) (s : Tally) (acts : List Action) :
    Tally := acts.foldl (Tally.add mode terms) s

def Tally.ended (s : Tally) : Tally := { s with callback := true }

structure Totals (mode : ConfidentialMode) (terms : Terms) (s : Tally) (acts : List Action)
    (t : Tally) : Prop where
  tradedA : t.tradedA = s.tradedA +
    if mode = .settle then sumOver (Action.sent terms.tokenA terms.partyB) acts else 0
  tradedB : t.tradedB = s.tradedB +
    if mode = .settle then sumOver (Action.sent terms.tokenB terms.partyA) acts else 0
  refunded : t.refunded = s.refunded + if mode = .settle then 0 else sumOver Action.output acts
  callback : t.callback = s.callback
  inputs : t.inputs = s.inputs + acts.countP Action.isInput

theorem totals_addAll (mode : ConfidentialMode) (terms : Terms) (acts : List Action) :
    ∀ s : Tally, Totals mode terms s acts (s.addAll mode terms acts) := by
  induction acts with
  | nil =>
    intro s
    refine ⟨?_, ?_, ?_, rfl, rfl⟩ <;> simp [Tally.addAll]
  | cons act acts ih =>
    intro s
    obtain ⟨hA, hB, hR, hC, hI⟩ := ih (s.add mode terms act)
    refine ⟨?_, ?_, ?_, hC, ?_⟩
    · change (Tally.addAll mode terms (s.add mode terms act) acts).tradedA = _
      rw [hA, sumOver_cons]
      simp only [Tally.add]
      split <;> omega
    · change (Tally.addAll mode terms (s.add mode terms act) acts).tradedB = _
      rw [hB, sumOver_cons]
      simp only [Tally.add]
      split <;> omega
    · change (Tally.addAll mode terms (s.add mode terms act) acts).refunded = _
      rw [hR, sumOver_cons]
      simp only [Tally.add]
      split <;> omega
    · change (Tally.addAll mode terms (s.add mode terms act) acts).inputs = _
      rw [hI, List.countP_cons]
      simp only [Tally.add]
      omega

/-- What the actions before the callback must pay; nothing bounds what a refund returns. -/
structure Covers (mode : U8) (terms : Terms) (before : List Action) : Prop where
  traded : mode = settle →
    sumOver (Action.sent terms.tokenA terms.partyB) before = terms.amountA.val ∧
    sumOver (Action.sent terms.tokenB terms.partyA) before = terms.amountB.val
  returned : mode = refundA ∨ mode = refundB → 0 < sumOver Action.output before
  spends : mode = settle ∨ mode = refundA ∨ mode = refundB → before.any Action.isInput = true

theorem pays_iff_covers {mode : U8} {terms : Terms} {before : List Action} :
    Pays mode terms before ↔
      Covers mode terms before ∧ (mode ≠ settle → sumOver Action.output before < 2 ^ 128) :=
  ⟨fun h => ⟨⟨h.traded, h.returned, h.spends⟩, h.fits⟩,
    fun h => ⟨h.1.traded, h.1.returned, h.1.spends, h.2⟩⟩

/-- The bundles that follow the policy of a mode, whatever they return in all. -/
def Complies (self : ContractAddress) (mode : U8) (terms : Terms) (b : Bundle)
    (before : List Action) : Prop :=
  b.actions.val = before ++ [callback self b.viewingKey mode] ∧ before.length < 64 ∧
    (∀ act ∈ before, Permitted self mode terms act) ∧ Covers mode terms before

namespace Review

variable {a : ConfidentialAgreement} {self : ContractAddress} {terms : Terms}
  {mode : ConfidentialMode} {viewingKey : Felt} {count : Nat}

theorem reads_loop {n i : Nat} (hcount : i + n = count) {s t : Tally} {acts : List Action}
    (hs : s.callback = false) :
    Reader.Reads (Step self mode terms viewingKey count) s (List.range' i n) acts t ∧
        t.callback = true ↔
      ∃ before, acts = before ++ [callback self viewingKey mode.code] ∧ before.length + 1 = n ∧
        (∀ act ∈ before, Permitted self mode.code terms act) ∧
        t = (s.addAll mode terms before).ended := by
  induction n generalizing i s acts with
  | zero =>
    constructor
    · rintro ⟨⟨rfl, rfl⟩, ht⟩
      rw [hs] at ht
      cases ht
    · rintro ⟨before, _, hlen, _⟩
      cases hlen
  | succ n ih =>
    have hnext : i + 1 + n = count := by omega
    rw [List.range'_succ]
    constructor
    · rintro ⟨⟨act, rest, r, rfl, hstep, hrest⟩, ht⟩
      rcases hstep with ⟨hpermitted, rfl⟩ | ⟨rfl, hlast, _, rfl⟩
      · obtain ⟨before, rfl, hlen, hall, rfl⟩ :=
          (ih hnext (s := s.add mode terms act) hs).mp ⟨hrest, ht⟩
        refine ⟨act :: before, rfl, by rw [List.length_cons, hlen], ?_, rfl⟩
        exact List.forall_mem_cons.mpr ⟨hpermitted, hall⟩
      · -- the callback is only read in the last iteration
        obtain rfl : n = 0 := by omega
        obtain ⟨rfl, rfl⟩ := hrest
        exact ⟨[], rfl, rfl, fun act hact => absurd hact List.not_mem_nil, rfl⟩
    · rintro ⟨before, rfl, hlen, hall, rfl⟩
      cases before with
      | nil =>
        obtain rfl : n = 0 := (Nat.succ.inj hlen).symm
        exact ⟨⟨_, _, _, rfl, Or.inr ⟨rfl, hcount, hs, rfl⟩, rfl, rfl⟩, rfl⟩
      | cons act before =>
        obtain ⟨hpermitted, hall⟩ := List.forall_mem_cons.mp hall
        obtain ⟨hreads, ht⟩ := (ih hnext (s := s.add mode terms act) hs).mpr
          ⟨before, rfl, Nat.succ.inj hlen, hall, rfl⟩
        exact ⟨⟨act, _, s.add mode terms act, rfl, Or.inl ⟨hpermitted, rfl⟩, hreads⟩, ht⟩

/-- The final checks on the totals. -/
theorem returns_reviewPayment (h : Matches a self terms) {before : List Action} {rest : List Felt}
    {u : Unit} :
    Returns (reviewPayment a.terms mode
        ((⟨0, 0, 0, false, 0, 0⟩ : Tally).addAll mode terms before).ended) data u rest ↔
      Covers mode.code terms before ∧ rest = data := by
  obtain ⟨hA, hB, hR, -, hI⟩ := totals_addAll mode terms before ⟨0, 0, 0, false, 0, 0⟩
  have hany : before.any Action.isInput = true ↔ before.countP Action.isInput ≠ 0 := by
    rw [List.any_eq_true, ← Nat.pos_iff_ne_zero, List.countP_pos_iff]
  unfold reviewPayment
  rw [returns_assert_bind, returns_assert]
  simp only [Tally.ended, hA, hB, hR, hI, Nat.zero_add, h.amountA, h.amountB]
  rw [← and_assoc]
  refine and_congr_left fun _ => ?_
  constructor
  · rintro ⟨hsettle, hrefund⟩
    refine ⟨?_, ?_, ?_⟩
    · intro hmode
      have hs := code_settle.mpr hmode
      simp only [hs, true_and, if_true, not_or, not_not] at hsettle
      exact hsettle.2
    · intro hmode
      have hr : mode = .refundA ∨ mode = .refundB := by rwa [code_refundA, code_refundB]
      have hns : mode ≠ .settle := by rcases hr with rfl | rfl <;> simp
      simp only [hr, true_and, if_neg hns, not_or] at hrefund
      omega
    · intro hmode
      rw [hany]
      rcases hmode with hmode | hmode
      · have hs := code_settle.mpr hmode
        simp only [hs, true_and, not_or] at hsettle
        exact hsettle.1
      · have hr : mode = .refundA ∨ mode = .refundB := by rwa [code_refundA, code_refundB]
        simp only [hr, true_and, not_or] at hrefund
        exact hrefund.1
  · rintro ⟨htraded, hreturned, hspends⟩
    rw [hany] at hspends
    refine ⟨?_, ?_⟩
    · rintro ⟨hs, hbad⟩
      have hmode := code_settle.mp hs
      obtain ⟨htA, htB⟩ := htraded hmode
      have hsp := hspends (Or.inl hmode)
      simp only [hs, if_true] at hbad
      omega
    · rintro ⟨hr, hbad⟩
      have hmode : mode.code = refundA ∨ mode.code = refundB := by
        rwa [← code_refundA, ← code_refundB]
      have hns : mode ≠ .settle := by rcases hr with rfl | rfl <;> simp
      have hsp := hspends (Or.inr hmode)
      have hret := hreturned hmode
      simp only [if_neg hns] at hbad
      omega

theorem review_ok_iff (h : Matches a self terms) :
    (∃ t, (reviewActions a mode (viewingKey.val : Int)).run' data = .ok t) ↔
      ∃ b before, data = Bundle.encode self b ∧ b.viewingKey = viewingKey ∧
        Complies self mode.code terms b before := by
  simp only [run'_eq_ok, reviewActions, take, Reader.returns_take_bind, returns_assert_bind,
    is_iff h.address, val_eq_iff, List.range_eq_range']
  constructor
  · rintro ⟨t, rest, _, _, rfl, rfl, key, _, rfl, rfl, felt, tail, rfl, hcount, hloop⟩
    obtain ⟨s, mid, hactions, hend⟩ := returns_bind.mp hloop
    obtain ⟨⟨rfl, hcallback⟩, hpays⟩ := returns_assert_bind.mp (returns_get_bind.mp hend)
    obtain ⟨u, _, hpayment, -⟩ := returns_bind.mp hpays
    obtain ⟨acts, rfl, hreads⟩ :=
      (Reader.returns_foldlM_reads fun _ _ _ _ _ => returns_reviewAction h).mp hactions
    obtain ⟨before, rfl, hlen, hall, rfl⟩ :=
      (reads_loop (Nat.zero_add _) rfl).mp ⟨hreads, hcallback⟩
    have hlength : (before ++ [callback self key mode.code]).length = felt.val := by
      rw [List.length_append, List.length_singleton, hlen]
    have hspan : (before ++ [callback self key mode.code]).length < 2 ^ 32 := by omega
    obtain rfl := eq_lengthFelt hlength.symm hspan
    refine ⟨⟨key, ⟨_, hspan⟩⟩, before, ?_, rfl, rfl, by omega, hall,
      ((returns_reviewPayment h).mp hpayment).1⟩
    rw [Bundle.encode, encodeList, List.append_nil]
  · rintro ⟨⟨key, acts⟩, before, rfl, rfl, hacts, hlen, hall, hcovers⟩
    dsimp only at hacts
    have hlength : before.length + 1 = acts.val.length := by
      rw [hacts, List.length_append, List.length_singleton]
    obtain ⟨hreads, hcallback⟩ := (reads_loop (s := ⟨0, 0, 0, false, 0, 0⟩)
      (Nat.zero_add _) rfl).mpr ⟨before, rfl, hlength, hall, rfl⟩
    rw [← hacts] at hreads
    have hval := lengthFelt_val acts.property
    have hcount : 1 ≤ (lengthFelt acts.val.length).val ∧ (lengthFelt acts.val.length).val ≤ 64 := by
      rw [hval]
      omega
    refine ⟨((⟨0, 0, 0, false, 0, 0⟩ : Tally).addAll mode terms before).ended, [], _, _, rfl, rfl,
      _, _, rfl, rfl, _, _, rfl, hcount, ?_⟩
    rw [hval]
    refine returns_bind.mpr ⟨((⟨0, 0, 0, false, 0, 0⟩ : Tally).addAll mode terms before).ended, [],
      ?_, ?_⟩
    · exact (Reader.returns_foldlM_reads fun _ _ _ _ _ => returns_reviewAction h).mpr
        ⟨acts.val, (List.append_nil _).symm, hreads⟩
    · exact returns_get_bind.mpr (returns_assert_bind.mpr ⟨⟨rfl, hcallback⟩,
        returns_bind.mpr ⟨(), [], (returns_reviewPayment h).mpr ⟨hcovers, rfl⟩,
          returns_pure.mpr ⟨rfl, rfl⟩⟩⟩)

end Review

end App20.Confidential
