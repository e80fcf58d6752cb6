import App20.Domain.BigInt
import App20.Domain.Json

/-!
# Submission of private transactions

One batch of actions goes from the caller's checks through the wallet to a provider that waits for
its transaction. Whatever is thrown on the way is made an error of a class of its own, and callers
read from the class whether they may try again.

* `sound_iff`: when an outcome that is classified as reverted is one.
* `sound_not`: a transport error that only looks like a revert.
-/

namespace App20.Strk20

open App20.Lib App20.Domain

/-! ## Errors -/

/-- The classes of errors, with the hash of those that have one. -/
inductive ErrorKind where
  | notSubmitted
  | deterministicSubmissionRejected
  | walletSubmissionUnknown
  | waitTimeout (transactionHash : Text)
  | reverted (transactionHash : Text)
  | unknownOutcome (transactionHash : Text)
  | submissionCallback (transactionHash : Text)
  | foreign

/-- What a wallet may attach to an error. -/
structure Attestation where
  app20SubmissionOutcome : Option Json
  code : Option Json
  httpStatus : Option Json

/-- What can be thrown. Of an object that is no error it matters how it is written as JSON and as a
string, which may both throw in turn. -/
inductive Thrown where
  | undefined
  | primitive (truthy : Bool) (text : Text)
  | error (kind : ErrorKind) (name message : Text) (attestation : Attestation)
  | object (json string : Option Text) (message : Option Json) (attestation : Attestation)

def noAttestation : Attestation := ⟨none, none, none⟩

def Thrown.kind : Thrown → ErrorKind
  | error kind _ _ _ => kind
  | _ => .foreign

def typeError : Thrown :=
  .error .foreign "TypeError".toList "Cannot convert object to primitive value".toList noAttestation

/-- `String(cause)`, or the message of an error. -/
def Thrown.reason : Thrown → Option Text
  | undefined => some "undefined".toList
  | primitive _ text => some text
  | error _ _ message _ => some message
  | object _ string _ _ => string

def notSubmittedError (cause : Thrown) : Thrown :=
  match cause.reason with
  | none => typeError
  | some reason => .error .notSubmitted "Strk20NotSubmittedError".toList
      ("Transaction policy failed before the wallet submission call; no transaction was submitted. ".toList
        ++ reason) noAttestation

def deterministicSubmissionRejectedError (reason : Text) : Thrown :=
  .error .deterministicSubmissionRejected "Strk20DeterministicSubmissionRejectedError".toList
    (reason ++
      " No transaction was submitted. Shield funds first, then retry explicitly.".toList)
    noAttestation

def walletSubmissionUnknownError : Thrown :=
  .error .walletSubmissionUnknown "Strk20WalletSubmissionUnknownError".toList
    "The wallet submission call was entered, but no transaction hash was returned. Its outcome is unknown; reconcile before retrying.".toList
    noAttestation

def waitTimeoutError (transactionHash minutes : Text) : Thrown :=
  .error (.waitTimeout transactionHash) "Strk20WaitTimeoutError".toList
    ("Transaction ".toList ++ transactionHash ++
      " was submitted, but confirmation was not observed within ".toList ++ minutes ++
      " minute(s). Its outcome is unknown; check the transaction before retrying.".toList)
    noAttestation

def revertedError (transactionHash : Text) : Thrown :=
  .error (.reverted transactionHash) "Strk20RevertedError".toList
    ("Transaction ".toList ++ transactionHash ++
      " reverted or was rejected. No successful value movement was confirmed.".toList) noAttestation

def unknownOutcomeError (transactionHash : Text) : Thrown :=
  .error (.unknownOutcome transactionHash) "Strk20UnknownOutcomeError".toList
    ("Transaction ".toList ++ transactionHash ++
      " was submitted, but its successful execution could not be proven. Its outcome is unknown; check the transaction before retrying.".toList)
    noAttestation

def submissionCallbackError (transactionHash : Text) : Thrown :=
  .error (.submissionCallback transactionHash) "Strk20SubmissionCallbackError".toList
    ("Transaction ".toList ++ transactionHash ++
      " succeeded, but Chat could not persist its submitted state. Local verification remains false; reconcile the transaction before retrying.".toList)
    noAttestation

theorem revertedError_kind (transactionHash : Text) :
    (revertedError transactionHash).kind = .reverted transactionHash := rfl

theorem unknownOutcomeError_kind (transactionHash : Text) :
    (unknownOutcomeError transactionHash).kind = .unknownOutcome transactionHash := rfl

inductive TransactionState where
  | reverted | unknown

def transactionStateFromError (error : Thrown) : Option TransactionState :=
  match error.kind with
  | .notSubmitted | .deterministicSubmissionRejected | .reverted _ => some .reverted
  | .waitTimeout _ | .walletSubmissionUnknown | .unknownOutcome _ | .submissionCallback _ =>
    some .unknown
  | .foreign => none

/-! ## Rejections before submission -/

def isDigits (s : Text) : Bool := s ≠ [] && s.all isDecDigit

def after? (start : String) (s : Text) : Option Text :=
  if s.take start.length = start.toList then some (s.drop start.length) else none

/-- What stands before a text at the end of another. -/
def before? (finish : String) (s : Text) : Option Text :=
  if s.drop (s.length - finish.length) = finish.toList then some (s.take (s.length - finish.length))
  else none

/-- `/^Insufficient balance for token \S+: need \d+ more \(total available: \d+\)$/`. The token is
what stands before the first white space, without its colon. -/
def insufficientBalanceMessage (message : Text) : Bool :=
  match after? "Insufficient balance for token " message with
  | none => false
  | some rest =>
    let token := rest.takeWhile fun c => !isSpace c
    let amounts := do
      let rest ← after? " need " (rest.dropWhile fun c => !isSpace c)
      let need := rest.takeWhile isDecDigit
      let rest ← after? " more (total available: " (rest.dropWhile isDecDigit)
      let available ← before? ")" rest
      return need ≠ [] && isDigits available
    token.getLast? = some ':' && 2 ≤ token.length && amounts.getD false

def localnetInsufficientBalanceCode : Text :=
  "APP20_LOCALNET_PRE_SUBMISSION_INSUFFICIENT_BALANCE".toList

def Thrown.attested : Thrown → Option (Option Json × Attestation)
  | error _ _ message attestation => some (some (.string message), attestation)
  | object _ _ message attestation => some (message, attestation)
  | _ => none

def deterministicPreSubmissionReason (error : Thrown) : Option Text :=
  match error.attested with
  | some (some (.string message), ⟨some (.string outcome), some (.string code),
      some (.number httpStatus)⟩) =>
    if outcome = "not-submitted".toList ∧ code = localnetInsufficientBalanceCode ∧
        httpStatus = 400 ∧ insufficientBalanceMessage message = true then some message
    else none
  | _ => none

/-! ## Receipts -/

def receiptValue (receipt : Option Json) : Option Json :=
  match receipt with
  | some (.object fields) =>
    match fields.lookup "value" with
    | some (.object inner) => some (.object inner)
    | _ => some (.object fields)
  | some (.array items) => some (.array items)
  | _ => none

/-- `toUpperCase`. Beside the letters of ASCII only the long s becomes a letter of the words that
are compared. -/
def toUpperCase (s : Text) : Text := s.map fun c => if c = 'ſ' then 'S' else c.toUpper

def statusText : Option Json → Text
  | some (.string status) => toUpperCase status
  | _ => []

/-- `value?.left ?? value?.right` -/
def eitherField (value : Option Json) (left right : String) : Option Json :=
  match value.bind (·.get? left) with
  | none | some .null => value.bind (·.get? right)
  | some found => some found

def executionStatus (receipt : Option Json) : Text :=
  statusText (eitherField (receiptValue receipt) "execution_status" "executionStatus")

def finalityStatus (receipt : Option Json) : Text :=
  statusText (eitherField (receiptValue receipt) "finality_status" "finalityStatus")

def plainStatus (receipt : Option Json) : Text :=
  statusText ((receiptValue receipt).bind (·.get? "status"))

/-- One of the statuses of the receipt says that its transaction reverted or was rejected. -/
def ReportsRevert (receipt : Option Json) : Prop :=
  ∃ status ∈ [executionStatus receipt, finalityStatus receipt, plainStatus receipt],
    status = "REVERTED".toList ∨ status = "REJECTED".toList

instance (receipt : Option Json) : Decidable (ReportsRevert receipt) :=
  inferInstanceAs (Decidable (∃ status ∈ _, _))

def assertSuccessfulReceipt (transactionHash : Text) (receipt : Option Json) :
    Except Thrown Unit := do
  throwIf (ReportsRevert receipt) (revertedError transactionHash)
  throwIf (executionStatus receipt ≠ "SUCCEEDED".toList) (unknownOutcomeError transactionHash)

/-! ## Errors that look reverted -/

/-- `\w` -/
def isWordChar (c : Char) : Bool := c.isAlphanum || c = '_'

def wordsFrom (word : Text) : Text → List Text
  | [] => [word.reverse]
  | c :: cs =>
    if isWordChar c = true then wordsFrom (c :: word) cs else word.reverse :: wordsFrom [] cs

/-- `/\b(?:REVERTED|REJECTED)\b/i`: one of the words of the text. -/
def looksReverted (text : Text) : Bool :=
  (wordsFrom [] text).any fun word =>
    toLowerCase word = "reverted".toList || toLowerCase word = "rejected".toList

def isRevertedOrRejected (error : Thrown) : Except Thrown Bool :=
  match error with
  | .undefined => .ok false
  | .primitive truthy text => .ok (truthy && looksReverted text)
  | .error (.reverted _) _ _ _ => .ok true
  | .error _ name message _ => .ok (looksReverted (name ++ ": ".toList ++ message))
  | .object (some json) _ _ _ => .ok (looksReverted json)
  | .object none _ _ _ => .error typeError

/-! ## Waiting -/

/-- How the wait for a transaction ends. Of an error the last component says whether the provider
threw it because this very transaction reverted or was rejected; no code reads it. -/
inductive ProviderAnswer where
  | receipt (value : Option Json)
  | threw (error : Thrown) (reported : Bool)
  | timeout

def waitError (transactionHash : Text) (error : Thrown) : Thrown :=
  match error.kind with
  | .waitTimeout _ => error
  | .reverted _ => error
  | kind =>
    match isRevertedOrRejected error with
    | .error thrown => thrown
    | .ok true => revertedError transactionHash
    | .ok false =>
      match kind with
      | .unknownOutcome _ => error
      | _ => unknownOutcomeError transactionHash

def received (transactionHash minutes : Text) : ProviderAnswer → Except Thrown (Option Json)
  | .receipt value => do
    assertSuccessfulReceipt transactionHash value
    return value
  | .threw error _ => .error error
  | .timeout => .error (waitTimeoutError transactionHash minutes)

def waitForStrk20Transaction (answer : ProviderAnswer) (transactionHash minutes : Text) :
    Except Thrown (Option Json) :=
  (received transactionHash minutes answer).mapError (waitError transactionHash)

/-! ## Submission -/

structure Strk20Action where
  type : Text
  amount : Option Json

/-- `/^(?:[0-9]+|0x[0-9a-f]+)$/i` of a positive number -/
def isPositiveAmount (amount : Text) : Bool :=
  match amount with
  | '0' :: 'x' :: ds | '0' :: 'X' :: ds =>
    ds ≠ [] && ds.all isHexDigit && decide (0 < ofDigits 16 ds)
  | ds => isDigits ds && decide (0 < ofDigits 10 ds)

def encryptedTransfer (action : Strk20Action) : Bool :=
  match action.amount with
  | some (.string amount) => action.type = "transfer".toList && isPositiveAmount amount
  | _ => false

def isOpen (action : Strk20Action) : Bool :=
  match action.amount with
  | some (.string amount) => amount = "OPEN".toList
  | _ => false

def errorOf (message : String) : Thrown :=
  .error .foreign "Error".toList message.toList noAttestation

def assertEncryptedPaymentActions (actions : List Strk20Action) : Except Thrown Unit :=
  throwIf (actions.any encryptedTransfer = false ∨ actions.any (fun action =>
        action.type ≠ "compute_and_invoke".toList && !encryptedTransfer action) = true)
    (errorOf "Private payments require encrypted notes only. Public funding, withdrawals and OPEN notes cannot be bundled with settlement.")

inductive WalletAnswer where
  | returned (submitted : Option Json)
  | threw (error : Thrown)

/-- What a submission meets on its way: the clone of the actions, the caller's policy before and
after the fence, the fence when there is one, the wallet, the callback and the provider. -/
structure Call where
  actions : Except Thrown (List Strk20Action)
  firstPolicy : Except Thrown Unit
  beforeWalletSubmission : Option (Except Thrown Unit)
  secondPolicy : Except Thrown Unit
  wallet : WalletAnswer
  onSubmitted : Except Thrown Unit
  provider : ProviderAnswer
  minutes : Text

/-- The actions that the wallet is given, after the caller's checks. -/
def prepare (call : Call) : Except Thrown (List Strk20Action) :=
  Except.mapError notSubmittedError do
    let submittedActions ← call.actions
    if submittedActions.any (fun action => action.type = "transfer".toList && !isOpen action) then
      assertEncryptedPaymentActions submittedActions
    call.firstPolicy
    return submittedActions

def fence (call : Call) : Except Thrown Unit :=
  match call.beforeWalletSubmission with
  | none => .ok ()
  | some committed =>
    Except.mapError (fun _ => walletSubmissionUnknownError) do
      committed
      call.secondPolicy

/-- `/^0x[0-9a-f]+$/i` of a number in the range of transaction hashes -/
def isTransactionHash (hash : Text) : Bool :=
  match hash with
  | '0' :: 'x' :: ds | '0' :: 'X' :: ds =>
    ds ≠ [] && ds.all isHexDigit &&
      decide (0 < ofDigits 16 ds ∧ ofDigits 16 ds < 2 ^ 251 + 17 * 2 ^ 192 + 1)
  | _ => false

/-- `submitted?.transaction_hash` when it is the hash of a transaction -/
def returnedHash (submitted : Option Json) : Except Thrown Text :=
  match submitted.bind (·.get? "transaction_hash") with
  | some (.string hash) =>
    if isTransactionHash hash = true then .ok hash
    else .error (errorOf "The wallet did not return a valid transaction hash. Check wallet activity before retrying.")
  | _ => .error (errorOf "The wallet did not return a valid transaction hash. Check wallet activity before retrying.")

def walletError (error : Thrown) : Thrown :=
  match deterministicPreSubmissionReason error with
  | some reason => deterministicSubmissionRejectedError reason
  | none => walletSubmissionUnknownError

def invokeWallet (answer : WalletAnswer) : Except Thrown Text :=
  Except.mapError walletError (match answer with
    | .returned submitted => returnedHash submitted
    | .threw error => .error error)

/-- The error of the callback is thrown last. -/
def finish (transactionHash : Text) (receipt : Option Json) (onSubmitted : Except Thrown Unit) :
    Except Thrown (Text × Option Json) :=
  match onSubmitted with
  | .ok () | .error .undefined => .ok (transactionHash, receipt)
  | .error _ => .error (submissionCallbackError transactionHash)

def submitActions (call : Call) : Except Thrown (Text × Option Json) := do
  let _ ← prepare call
  fence call
  let transactionHash ← invokeWallet call.wallet
  let receipt ← waitForStrk20Transaction call.provider transactionHash call.minutes
  finish transactionHash receipt call.onSubmitted

/-! ## Words -/

variable {c : Char} {hash transactionHash : Text} {error : Thrown} {call : Call}

theorem wordsFrom_append (hc : isWordChar c = false) (rest s word : Text) :
    wordsFrom word (s ++ c :: rest) = wordsFrom word s ++ wordsFrom [] rest := by
  induction s generalizing word with
  | nil =>
    simp [wordsFrom, hc]
  | cons d s ih =>
    rw [List.cons_append, wordsFrom, wordsFrom]
    by_cases hd : isWordChar d = true
    · rw [if_pos hd, if_pos hd, ih]
    · rw [if_neg hd, if_neg hd, ih, List.cons_append]

theorem looksReverted_append (hc : isWordChar c = false) (s rest : Text) :
    looksReverted (s ++ c :: rest) = (looksReverted s || looksReverted rest) := by
  unfold looksReverted
  rw [wordsFrom_append hc, List.any_append]

theorem wordsFrom_of_word {s : Text} (h : ∀ c ∈ s, isWordChar c = true) (word : Text) :
    wordsFrom word s = [word.reverse ++ s] := by
  induction s generalizing word with
  | nil => rw [wordsFrom, List.append_nil]
  | cons c s ih =>
    rw [wordsFrom, if_pos (h c List.mem_cons_self),
      ih (fun d hd => h d (List.mem_cons_of_mem c hd)), List.reverse_cons, List.append_assoc]
    rfl

theorem isWordChar_of_isHexDigit (h : isHexDigit c = true) : isWordChar c = true := by
  unfold isHexDigit at h
  have hc := of_decide_eq_true h
  have hcases : c.isAlphanum = true := by
    unfold Char.isAlphanum Char.isAlpha Char.isUpper Char.isLower Char.isDigit
    simp only [Bool.or_eq_true, decide_eq_true_eq, ge_iff_le, Bool.and_eq_true,
      UInt32.le_iff_toNat_le]
    have hv : c.val.toNat = c.toNat := rfl
    simp only [hv]
    have h0 : '0'.val.toNat = 48 := rfl
    have h9 : '9'.val.toNat = 57 := rfl
    have ha : 'a'.val.toNat = 97 := rfl
    have hz : 'z'.val.toNat = 122 := rfl
    have hA : 'A'.val.toNat = 65 := rfl
    have hZ : 'Z'.val.toNat = 90 := rfl
    omega
  unfold isWordChar
  rw [hcases, Bool.true_or]

theorem looksReverted_hash (h : isTransactionHash hash = true) : looksReverted hash = false := by
  have hword : ∃ rest, hash = '0' :: rest ∧ ∀ c ∈ hash, isWordChar c = true := by
    unfold isTransactionHash at h
    split at h
    all_goals first
        | cases h
        | rename_i ds
          simp only [Bool.and_eq_true, List.all_eq_true] at h
          refine ⟨_, rfl, ?_⟩
          intro c hc
          simp only [List.mem_cons] at hc
          rcases hc with rfl | rfl | hc
          · rfl
          · rfl
          · exact isWordChar_of_isHexDigit (h.1.2 c hc)
  obtain ⟨rest, rfl, hall⟩ := hword
  unfold looksReverted
  rw [wordsFrom_of_word hall]
  have h0 : '0'.toLower = '0' := by decide
  simp [toLowerCase, h0]

theorem not_looksReverted_unknownOutcome (h : isTransactionHash hash = true) :
    isRevertedOrRejected (unknownOutcomeError hash) = .ok false := by
  have hfirst : looksReverted "Strk20UnknownOutcomeError: Transaction".toList = false := by decide
  have hlast : looksReverted
      "was submitted, but its successful execution could not be proven. Its outcome is unknown; check the transaction before retrying.".toList =
        false := by
    decide +kernel
  have htext : ("Strk20UnknownOutcomeError".toList ++ ": ".toList ++
      ("Transaction ".toList ++ hash ++
        " was submitted, but its successful execution could not be proven. Its outcome is unknown; check the transaction before retrying.".toList)) =
      "Strk20UnknownOutcomeError: Transaction".toList ++ ' ' :: (hash ++ ' ' ::
        "was submitted, but its successful execution could not be proven. Its outcome is unknown; check the transaction before retrying.".toList) := by
    simp
  unfold isRevertedOrRejected unknownOutcomeError
  simp only
  rw [htext, looksReverted_append rfl, looksReverted_append rfl, hfirst, looksReverted_hash h,
    hlast]
  rfl

/-! ## Soundness -/

/-- The caller's checks pass and the wallet method is called. -/
def Call.Enters (call : Call) : Prop :=
  (∃ actions, prepare call = .ok actions) ∧ fence call = .ok ()

/-- The provider is asked for this transaction. -/
def Call.Awaits (call : Call) (transactionHash : Text) : Prop :=
  call.Enters ∧ invokeWallet call.wallet = .ok transactionHash

def WalletAnswer.Attests : WalletAnswer → Prop
  | returned _ => False
  | threw error => ∃ message attestation, error.attested = some (message, attestation) ∧
      ∃ outcome, attestation.app20SubmissionOutcome = some (.string outcome) ∧
        outcome = "not-submitted".toList

/-- The provider says that this very transaction reverted or was rejected. -/
def ProviderAnswer.Reports : ProviderAnswer → Prop
  | receipt value => ReportsRevert value
  | threw _ reported => reported = true
  | timeout => False

/-- Only what did not land is classified as reverted, and only what succeeded is returned. -/
structure Sound (call : Call) : Prop where
  reverted : ∀ error, submitActions call = .error error →
    transactionStateFromError error = some .reverted →
      ¬ call.Enters ∨ call.wallet.Attests ∨ call.provider.Reports
  succeeded : ∀ transactionHash receipt, submitActions call = .ok (transactionHash, receipt) →
    executionStatus receipt = "SUCCEEDED".toList

def Thrown.LooksReverted (error : Thrown) : Prop :=
  (∀ hash, error.kind ≠ .waitTimeout hash) ∧ isRevertedOrRejected error = .ok true

/-- When the provider is asked, an error that looks reverted reports a revert. -/
def Honest (call : Call) : Prop :=
  ∀ transactionHash error, call.Awaits transactionHash →
    call.provider = .threw error false → ¬ error.LooksReverted

theorem isRevertedOrRejected_error {thrown : Thrown}
    (h : isRevertedOrRejected error = .error thrown) : thrown = typeError := by
  unfold isRevertedOrRejected at h
  split at h
  case h_6 =>
    cases h
    rfl
  all_goals cases h

theorem isRevertedOrRejected_reverted (h : error.kind = .reverted hash) :
    isRevertedOrRejected error = .ok true := by
  cases error with
  | error kind name message attestation =>
    cases h
    rfl
  | undefined | primitive | object => cases h

theorem waitError_reverted_iff (transactionHash : Text) (error : Thrown) :
    transactionStateFromError (waitError transactionHash error) = some .reverted ↔
      error.LooksReverted := by
  unfold Thrown.LooksReverted waitError
  cases hkind : error.kind with
  | waitTimeout hash => simp [transactionStateFromError, hkind]
  | reverted hash => simp [transactionStateFromError, hkind, isRevertedOrRejected_reverted hkind]
  | unknownOutcome hash =>
    cases hlooks : isRevertedOrRejected error with
    | error thrown =>
      rw [isRevertedOrRejected_error hlooks]
      simp [transactionStateFromError, typeError, Thrown.kind]
    | ok looks => cases looks <;> simp [transactionStateFromError, hkind, revertedError_kind]
  | notSubmitted | deterministicSubmissionRejected | walletSubmissionUnknown
  | submissionCallback hash | foreign =>
    cases hlooks : isRevertedOrRejected error with
    | error thrown =>
      rw [isRevertedOrRejected_error hlooks]
      simp [transactionStateFromError, typeError, Thrown.kind]
    | ok looks =>
      cases looks <;> simp [transactionStateFromError, revertedError_kind, unknownOutcomeError_kind]

theorem mapError_error_iff {ε ε' α : Type} {f : ε → ε'} {x : Except ε α} {e : ε'} :
    x.mapError f = .error e ↔ ∃ e', x = .error e' ∧ f e' = e := by
  cases x <;> simp [Except.mapError]

theorem mapError_ok_iff {ε ε' α : Type} {f : ε → ε'} {x : Except ε α} {a : α} :
    x.mapError f = .ok a ↔ x = .ok a := by
  cases x <;> simp [Except.mapError]

theorem submitActions_awaits (h : call.Awaits transactionHash) :
    submitActions call =
      (waitForStrk20Transaction call.provider transactionHash call.minutes >>= fun receipt =>
        finish transactionHash receipt call.onSubmitted) := by
  obtain ⟨⟨⟨actions, hprepare⟩, hfence⟩, hwallet⟩ := h
  unfold submitActions
  rw [hprepare, ok_bind, hfence, ok_bind, hwallet, ok_bind]

theorem invokeWallet_hash {answer : WalletAnswer} (h : invokeWallet answer = .ok hash) :
    isTransactionHash hash = true := by
  unfold invokeWallet at h
  rw [mapError_ok_iff] at h
  cases answer with
  | threw error => cases h
  | returned submitted =>
    simp only [returnedHash] at h
    split at h
    · split at h
      · rename_i hvalid
        cases h
        exact hvalid
      · cases h
    · cases h

theorem invokeWallet_attests {answer : WalletAnswer} (h : invokeWallet answer = .error error)
    (hstate : transactionStateFromError error = some .reverted) : answer.Attests := by
  unfold invokeWallet at h
  obtain ⟨cause, hcause, rfl⟩ := mapError_error_iff.mp h
  unfold walletError at hstate
  cases hreason : deterministicPreSubmissionReason cause with
  | none =>
    rw [hreason] at hstate
    cases hstate
  | some reason =>
    unfold deterministicPreSubmissionReason at hreason
    split at hreason
    · rename_i message outcome code httpStatus hattested
      split at hreason
      · rename_i hcondition
        cases answer with
        | threw thrown =>
          cases hcause
          exact ⟨_, _, hattested, outcome, rfl, hcondition.1⟩
        | returned submitted =>
          simp only [returnedHash] at hcause
          split at hcause
          · split at hcause
            · cases hcause
            · cases hcause
              cases hattested
          · cases hcause
            cases hattested
      · cases hreason
    · cases hreason

variable {receipt : Option Json}

theorem assertSuccessfulReceipt_ok (h : assertSuccessfulReceipt transactionHash receipt = .ok ()) :
    executionStatus receipt = "SUCCEEDED".toList := by
  unfold assertSuccessfulReceipt at h
  obtain ⟨_, _, hsucceeded⟩ := bind_ok.mp h
  exact not_not.mp (throwIf_ok.mp hsucceeded)

theorem received_receipt_error {minutes : Text} {value : Option Json}
    (hhash : isTransactionHash transactionHash = true)
    (h : received transactionHash minutes (.receipt value) = .error error)
    (hlooks : error.LooksReverted) : ReportsRevert value := by
  unfold received at h
  rcases bind_error.mp h with hreceipt | ⟨_, _, hpure⟩
  · unfold assertSuccessfulReceipt at hreceipt
    rcases bind_error.mp hreceipt with hfirst | ⟨_, _, hsecond⟩
    · exact (throwIf_error_iff.mp hfirst).1
    · obtain ⟨_, rfl⟩ := throwIf_error_iff.mp hsecond
      have hfalse := not_looksReverted_unknownOutcome hhash
      rw [hlooks.2] at hfalse
      cases hfalse
  · cases hpure

theorem finish_unknown {onSubmitted : Except Thrown Unit}
    (h : finish transactionHash receipt onSubmitted = .error error) :
    error = submissionCallbackError transactionHash := by
  unfold finish at h
  split at h
  · cases h
  · cases h
  · exact (Except.error.inj h).symm

theorem finish_receipt {result : Option Json} {onSubmitted : Except Thrown Unit}
    (h : finish transactionHash receipt onSubmitted = .ok (hash, result)) : result = receipt := by
  unfold finish at h
  split at h
  · cases h
    rfl
  · cases h
    rfl
  · cases h

theorem Sound.honest (h : Sound call) : Honest call := by
  intro transactionHash error hawaits hprovider hlooks
  have hwait : waitForStrk20Transaction call.provider transactionHash call.minutes =
      .error (waitError transactionHash error) := by
    rw [hprovider]
    rfl
  have hresult : submitActions call = .error (waitError transactionHash error) := by
    rw [submitActions_awaits hawaits, hwait]
    rfl
  rcases h.reverted _ hresult ((waitError_reverted_iff transactionHash error).mpr hlooks) with
    hnot | hattests | hreports
  · exact hnot hawaits.1
  · have hwallet := hawaits.2
    cases hanswer : call.wallet with
    | returned submitted => rw [hanswer] at hattests; exact hattests
    | threw thrown => rw [hanswer] at hwallet; cases hwallet
  · rw [hprovider] at hreports
    cases hreports

theorem Honest.reverted (h : Honest call) (hresult : submitActions call = .error error)
    (hstate : transactionStateFromError error = some .reverted) :
    ¬ call.Enters ∨ call.wallet.Attests ∨ call.provider.Reports := by
  by_cases henters : call.Enters
  · right
    obtain ⟨⟨actions, hprepare⟩, hfence⟩ := henters
    cases hwallet : invokeWallet call.wallet with
    | error thrown =>
      unfold submitActions at hresult
      rw [hprepare, ok_bind, hfence, ok_bind, hwallet] at hresult
      cases hresult
      exact Or.inl (invokeWallet_attests hwallet hstate)
    | ok transactionHash =>
      right
      have hawaits : call.Awaits transactionHash := ⟨⟨⟨actions, hprepare⟩, hfence⟩, hwallet⟩
      rw [submitActions_awaits hawaits] at hresult
      rcases bind_error.mp hresult with hwait | ⟨receipt, _, hfinish⟩
      · obtain ⟨cause, hcause, rfl⟩ := mapError_error_iff.mp hwait
        have hlooks := (waitError_reverted_iff transactionHash cause).mp hstate
        cases hprovider : call.provider with
        | receipt value =>
          rw [hprovider] at hcause
          exact received_receipt_error (invokeWallet_hash hwallet) hcause hlooks
        | threw thrown reported =>
          cases reported with
          | true => rfl
          | false =>
            rw [hprovider] at hcause
            cases hcause
            exact absurd hlooks (h transactionHash _ hawaits hprovider)
        | timeout =>
          rw [hprovider] at hcause
          cases hcause
          exact absurd rfl (hlooks.1 transactionHash)
      · rw [finish_unknown hfinish] at hstate
        cases hstate
  · exact Or.inl henters

theorem submitActions_succeeded (h : submitActions call = .ok (transactionHash, receipt)) :
    executionStatus receipt = "SUCCEEDED".toList := by
  unfold submitActions at h
  obtain ⟨_, _, h⟩ := bind_ok.mp h
  obtain ⟨_, _, h⟩ := bind_ok.mp h
  obtain ⟨hash, _, h⟩ := bind_ok.mp h
  obtain ⟨value, hwait, hfinish⟩ := bind_ok.mp h
  rw [finish_receipt hfinish]
  unfold waitForStrk20Transaction at hwait
  rw [mapError_ok_iff] at hwait
  cases hprovider : call.provider with
  | receipt answer =>
    rw [hprovider] at hwait
    unfold received at hwait
    obtain ⟨_, hreceipt, hpure⟩ := bind_ok.mp hwait
    cases hpure
    exact assertSuccessfulReceipt_ok hreceipt
  | threw | timeout => rw [hprovider] at hwait; cases hwait

/-- A submission is classified soundly exactly when no error of the provider merely looks like a
revert. -/
theorem sound_iff (call : Call) : Sound call ↔ Honest call :=
  ⟨Sound.honest, fun h => ⟨fun _ => h.reverted, fun _ _ => submitActions_succeeded⟩⟩

/-- A payment whose transaction was sent, and a gateway that answers the wait with an error of its
own. -/
def gatewayError : Call where
  actions := .ok [⟨"transfer".toList, some (.string "1".toList)⟩]
  firstPolicy := .ok ()
  beforeWalletSubmission := none
  secondPolicy := .ok ()
  wallet := .returned (some (.object [("transaction_hash", .string "0x1".toList)]))
  onSubmitted := .ok ()
  provider := .threw (errorOf "Request rejected by the RPC gateway (HTTP 503)") false
  minutes := "5".toList

/-- The error of the gateway is classified as a revert. -/
theorem sound_not : ¬ Sound gatewayError := by
  rw [sound_iff]
  intro h
  refine h "0x1".toList _ ⟨⟨⟨_, rfl⟩, rfl⟩, rfl⟩ rfl ⟨?_, ?_⟩
  · intro hash hkind
    cases hkind
  · exact congrArg Except.ok (show looksReverted _ = true by decide +kernel)

end App20.Strk20
