import App20.Confidential.Actions

/-!
# The checker of private operations

`checkActions` is the account's walk over the calldata of `compile_actions`: one loop that
takes felts from the front, skips what it does not look at and adds up what is paid. It is
compared with a policy on parsed bundles: `checkActions_ok_iff` says that the accepted calldata
are the encodings of the admitted bundles.
-/

namespace App20.Confidential

open App20.Lib App20.Lib.Exec App20.Starknet

/-! ## Modes and errors -/

def setup : U8 := 0
def settle : U8 := 1
def refundA : U8 := 2
def refundB : U8 := 3

/-- The error constants of the account. -/
inductive Error where
  | badKeys | badConfig | poolClass
  | truncatedAction | tokenPolicy | recipientPolicy
  | wrongUser | actionCount | registerPolicy | setupValue | changePolicy | setupInput
  | callbackLast | callbackTarget | computeData | computeKey | computeMode | invokeData
  | actionForbidden | missingCallbackOrTrailing | tradeAmounts | emptyRefund
  | callShape | signatureShape | badMode | termsShape | termsPolicy | termsCommitment
  | compileOnly | signerA | signerB
  | escrowIdentity | onlyPool | computeTag | escrowExpired | alreadySettled | refundTooEarly
  deriving DecidableEq

abbrev AccountPanic := Panic Error
abbrev ActionReader := Reader AccountPanic Felt

/-! ## The code -/

def take : ActionReader Felt := Reader.take (.error .truncatedAction)

def skip (count : Nat) : ActionReader Unit := Reader.skip (.error .truncatedAction) count

def TokenAllowed (terms : Terms) (mode : U8) (token : Felt) : Prop :=
  (token = into terms.tokenA ∧ mode ≠ refundB) ∨ (token = into terms.tokenB ∧ mode ≠ refundA)
  deriving Decidable

/-- `self` is the address of the account. -/
def RecipientAllowed (self : ContractAddress) (terms : Terms) (mode : U8) (recipient : Felt) :
    Prop :=
  (recipient = into terms.partyA ∧ mode ≠ refundB) ∨
    (recipient = into terms.partyB ∧ mode ≠ refundA) ∨ (mode = setup ∧ recipient = into self)
  deriving Decidable

def tokenAllowed (terms : Terms) (mode : U8) (token : Felt) : ActionReader Unit :=
  assert (TokenAllowed terms mode token) (.error .tokenPolicy)

def recipientAllowed (self : ContractAddress) (terms : Terms) (mode : U8) (recipient : Felt) :
    ActionReader Unit :=
  assert (RecipientAllowed self terms mode recipient) (.error .recipientPolicy)

/-- What the loop remembers. -/
structure Progress where
  callback : Bool
  tradedA : U128
  tradedB : U128
  refunded : U128
  used : Bool

/-- A surplus goes back to the party that its token came from. -/
def IsChange (terms : Terms) (recipient token : Felt) : Prop :=
  (token = into terms.tokenA ∧ recipient = into terms.partyA) ∨
    (token = into terms.tokenB ∧ recipient = into terms.partyB) deriving Decidable

/-- The tail of the branch of the encrypted notes. -/
def recordOutput (self : ContractAddress) (mode : U8) (terms : Terms) (recipient token : Felt)
    (amount : U128) (p : Progress) : ActionReader Progress :=
  if mode = settle then
    if token = into terms.tokenA ∧ recipient = into terms.partyB then do
      let tradedA ← expect (checkedAdd p.tradedA amount) .overflow
      return { p with tradedA }
    else if token = into terms.tokenB ∧ recipient = into terms.partyA then do
      let tradedB ← expect (checkedAdd p.tradedB amount) .overflow
      return { p with tradedB }
    else do
      assert (IsChange terms recipient token) (.error .changePolicy)
      return p
  else do
    recipientAllowed self terms mode recipient
    let refunded ← expect (checkedAdd p.refunded amount) .overflow
    return { p with refunded }

/-- One iteration of the loop over the actions. -/
def checkAction (self : ContractAddress) (mode : U8) (terms : Terms) (viewingKey : Felt)
    (count : Nat) (p : Progress) (i : Nat) : ActionReader Progress := do
  let kind ← take
  match kind.val with
  | 0 =>
    assert (mode = setup) (.error .registerPolicy)
    skip 1
    return p
  | 1 =>
    recipientAllowed self terms mode (← take)
    skip 3
    return p
  | 2 =>
    recipientAllowed self terms mode (← take)
    skip 3
    tokenAllowed terms mode (← take)
    skip 1
    return p
  | 3 =>
    assert (mode ≠ setup) (.error .setupValue)
    let recipient ← take
    skip 1
    let token ← take
    tokenAllowed terms mode token
    let amount ← expect (tryInto (2 ^ 128) (← take)) .unwrapNone
    skip 2
    recordOutput self mode terms recipient token amount p
  | 6 =>
    assert (mode ≠ setup) (.error .setupInput)
    skip 1
    tokenAllowed terms mode (← take)
    skip 1
    return { p with used := true }
  | 9 =>
    assert (i + 1 = count ∧ p.callback = false) (.error .callbackLast)
    assert ((← take) = into self) (.error .callbackTarget)
    assert ((← take) = 2) (.error .computeData)
    assert ((← take) = viewingKey) (.error .computeKey)
    assert ((← take) = into mode) (.error .computeMode)
    assert ((← take) = 0) (.error .invokeData)
    return { p with callback := true }
  | _ => throw (.error .actionForbidden)

/-- What must have been paid at the end of the loop. -/
def checkPayment (mode : U8) (terms : Terms) (p : Progress) : ActionReader Unit :=
  if mode = settle then
    assert (p.used = true ∧ p.tradedA = terms.amountA ∧ p.tradedB = terms.amountB)
      (.error .tradeAmounts)
  else if mode = refundA ∨ mode = refundB then
    assert (p.used = true ∧ 0 < p.refunded.val) (.error .emptyRefund)
  else pure ()

def readActions (self : ContractAddress) (mode : U8) (terms : Terms) : ActionReader Unit := do
  assert ((← take) = into self) (.error .wrongUser)
  let viewingKey ← take
  let count ← expect (tryInto (2 ^ 32) (← take)) .unwrapNone
  assert (0 < count.val ∧ count.val ≤ 64) (.error .actionCount)
  let p ← (List.range count.val).foldlM (checkAction self mode terms viewingKey count.val)
    ⟨false, 0, 0, 0, false⟩
  let rest ← get
  assert (rest = [] ∧ p.callback = true) (.error .missingCallbackOrTrailing)
  checkPayment mode terms p

def checkActions (self : ContractAddress) (data : List Felt) (mode : U8) (terms : Terms) :
    Except AccountPanic Unit := (readActions self mode terms).run' data

end App20.Confidential
