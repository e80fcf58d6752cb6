import App20.Lib.Run
import App20.Otc.Deals

/-!
# The storage of a browser

All mailboxes of a browser, each under the storage key of its network and address. An operation
loads the records of one mailbox, and stores them again when it does not throw. Beside the storage
stand the attempts that were made to pay a request, or to accept an offer.

* `step_cases`: a step performs an operation in one mailbox.
-/

namespace App20.Otc

open App20.Lib App20.Domain

/-! ## Operations -/

structure OtcState where
  deals : Deals
  payments : Payments

def emptyOtcState : OtcState := ⟨fun _ => none, fun _ => none⟩

/-- What is tried by attempts: paying a request, or accepting the offer of a deal. -/
inductive Task where
  | payment (requestId : Text)
  | deal (dealId : Text)
  deriving DecidableEq

abbrev Attempts := List (Attempt Text Text)
abbrev Event := AttemptEvent Text Text

inductive Operation where
  | expireStoredDeals
  | recordPaymentRequest (request : Json)
  | recordPaymentLinkRequest (request : Json) (linkAuthenticity : PaymentLinkAuthenticity)
  | recordInvoiceTakeSettled (requestId : Text) (input : InvoiceTakeSettlement)
  | claimPayment (expectedRequest : Json) (attemptId : Text)
  | claimMatureInvoicePayment (expectedRequest : Json) (headBlock : Int) (attemptId : Text)
  | recordUnverifiedPaymentClaim (acceptPayload : Json)
  | markPaymentSubmitted (requestId transactionHash : Text)
  | confirmPayment (requestId transactionHash : Text) (receipt : ReceiptPayload)
  | markPaymentOutcome (requestId : Text) (transactionHash : Option Text) (outcome : Outcome)
  | releasePayment (requestId : Text)
  | recordDealEvent (event : OtcDealEvent)
  | claimOtcAccept (accept : Json) (attemptId : Text)
  | markOtcAcceptSubmitted (dealId transactionHash : Text)
  | confirmOtcAccept (dealId transactionHash : Text)
  | markOtcAcceptOutcome (dealId transactionHash : Text) (outcome : Outcome)
  | releaseOtcAccept (dealId : Text)

/-- An operation of a mailbox, at a time. -/
structure Action where
  chainId : Text
  selfAddress : Text
  now : Int
  operation : Operation

def Action.key (a : Action) : Text := otcStorageKey a.chainId a.selfAddress

/-- What an operation stores, and what it means to an attempt. -/
structure Effect where
  state : OtcState
  event : Option (Task × Event)

def PaymentClaim.effect (state : OtcState) (attemptId : Text) : PaymentClaim → Effect
  | .expired payments => ⟨{ state with payments }, none⟩
  | .claimed requestId payments =>
    ⟨{ state with payments }, some (.payment requestId, .reserved attemptId)⟩

def AcceptClaim.effect (state : OtcState) (attemptId : Text) : AcceptClaim → Effect
  | .expired deals => ⟨{ state with deals }, none⟩
  | .claimed dealId deals => ⟨{ state with deals }, some (.deal dealId, .reserved attemptId)⟩

/-- Only what was reverted ends an attempt. -/
def outcomeEvent (task : Task) (transactionHash : Option Text) (outcome : Outcome) :
    Option (Task × Event) :=
  match outcome, transactionHash with
  | .reverted, some hash => some (task, .ended (.reverted hash))
  | _, _ => none

def perform (build : Build) (a : Action) (state : OtcState) : Except String Effect :=
  let pay (payments : Payments) : OtcState := { state with payments }
  let deal (deals : Deals) : OtcState := { state with deals }
  match a.operation with
  | .expireStoredDeals => .ok
    ⟨⟨fun id => (state.deals id).map fun r => expireDeal r a.now,
      fun id => (state.payments id).map fun r => expirePayment r a.now⟩, none⟩
  | .recordPaymentRequest request =>
    (recordPaymentRequest build a.chainId state.payments request a.now).map
      fun payments => ⟨pay payments, none⟩
  | .recordPaymentLinkRequest request linkAuthenticity =>
    (recordPaymentLinkRequest build a.chainId state.payments request linkAuthenticity a.now).map
      fun payments => ⟨pay payments, none⟩
  | .recordInvoiceTakeSettled requestId input =>
    (recordInvoiceTakeSettled build a.chainId state.payments requestId input a.now).map
      fun payments => ⟨pay payments, none⟩
  | .claimPayment expectedRequest attemptId =>
    (claimPayment build a.chainId state.payments expectedRequest attemptId a.now).map
      (PaymentClaim.effect state attemptId)
  | .claimMatureInvoicePayment expectedRequest headBlock attemptId =>
    (claimMatureInvoicePayment build a.chainId state.payments expectedRequest headBlock attemptId
      a.now).map (PaymentClaim.effect state attemptId)
  | .recordUnverifiedPaymentClaim acceptPayload =>
    (recordUnverifiedPaymentClaim build a.chainId state.payments acceptPayload a.now).map
      fun payments => ⟨pay payments, none⟩
  | .markPaymentSubmitted requestId transactionHash =>
    (markPaymentSubmitted state.payments requestId transactionHash a.now).map
      fun payments => ⟨pay payments, some (.payment requestId, .submitted transactionHash)⟩
  | .confirmPayment requestId transactionHash receipt =>
    (confirmPayment state.payments requestId transactionHash receipt a.now).map
      fun payments => ⟨pay payments, none⟩
  | .markPaymentOutcome requestId transactionHash outcome =>
    (markPaymentOutcome state.payments requestId transactionHash outcome a.now).map
      fun payments => ⟨pay payments, outcomeEvent (.payment requestId) transactionHash outcome⟩
  | .releasePayment requestId => .ok
    ⟨pay (releasePayment state.payments requestId a.now),
      if (state.payments requestId).any releasable then
        some (.payment requestId, .ended .released)
      else none⟩
  | .recordDealEvent event =>
    (recordDealEvent state.deals event a.now).map fun deals => ⟨deal deals, none⟩
  | .claimOtcAccept accept attemptId =>
    (claimOtcAccept state.deals accept attemptId a.now).map (AcceptClaim.effect state attemptId)
  | .markOtcAcceptSubmitted dealId transactionHash =>
    (markOtcAcceptSubmitted state.deals dealId transactionHash a.now).map
      fun deals => ⟨deal deals, some (.deal dealId, .submitted transactionHash)⟩
  | .confirmOtcAccept dealId transactionHash =>
    (confirmOtcAccept state.deals dealId transactionHash a.now).map
      fun deals => ⟨deal deals, none⟩
  | .markOtcAcceptOutcome dealId transactionHash outcome =>
    (markOtcAcceptOutcome state.deals dealId transactionHash outcome a.now).map
      fun deals => ⟨deal deals, outcomeEvent (.deal dealId) (some transactionHash) outcome⟩
  | .releaseOtcAccept dealId => .ok
    ⟨deal (releaseOtcAccept state.deals dealId a.now),
      if (state.deals dealId).any acceptReleasable then some (.deal dealId, .ended .released)
      else none⟩

/-! ## Steps -/

/-- The storage, by key, and the attempts of each mailbox. -/
structure Sys where
  storage : Text → OtcState
  attempts : Text → Task → Attempts

/-- What happens to the attempts at one task. -/
def eventOn (event : Option (Task × Event)) (task : Task) : Option Event :=
  match event with
  | some (t, e) => if t = task then some e else none
  | none => none

def record (attempts : Attempts) : Option Event → Attempts
  | some event => observe attempts event
  | none => attempts

/-- An operation that throws stores nothing. -/
def step (build : Build) (s : Sys) (a : Action) : Sys :=
  match perform build a (s.storage a.key) with
  | .ok e =>
    ⟨Function.update s.storage a.key e.state,
      Function.update s.attempts a.key fun task => record (s.attempts a.key task) (eventOn e.event task)⟩
  | .error _ => s

def initial : Sys := ⟨fun _ => emptyOtcState, fun _ _ => []⟩

theorem step_cases (build : Build) (s : Sys) (a : Action) (key : Text) :
    ((step build s a).storage key = s.storage key ∧
      (step build s a).attempts key = s.attempts key) ∨
    key = a.key ∧ ∃ e, perform build a (s.storage key) = .ok e ∧
      (step build s a).storage key = e.state ∧
      ∀ task, (step build s a).attempts key task = record (s.attempts key task) (eventOn e.event task) := by
  unfold step
  split
  · rename_i e he
    by_cases hkey : key = a.key
    · subst hkey
      exact .inr ⟨rfl, e, he, Function.update_self _ _ _, congrFun (Function.update_self _ _ _)⟩
    · exact .inl ⟨Function.update_of_ne hkey _ _, Function.update_of_ne hkey _ _⟩
  · exact .inl ⟨rfl, rfl⟩

end App20.Otc
