import App20.Intents.Texts
import App20.Maker.Inventory

/-!
# Texts of quotes for reservations

The canonical texts of quotes of versions 1 and 2, which a maker signs and stores with the
reservation.

* `trimmedTexts_standard`: they are stored as they are.
-/

namespace App20.Maker

open App20.Lib App20.Domain App20.Intents

/-! ## Version 1 -/

def requireToken (value : Text) (label : String) : Except String Text :=
  match canonicalizeStarknetFelt value with
  | none => .error (label ++ " must be a non-zero Starknet token address.")
  | some token =>
    if token = "0x0".toList then .error (label ++ " must be a non-zero Starknet token address.")
    else .ok token

def canonicalSolverQuote (quote : UnsignedSolverQuote) : Except String Text := do
  let buyToken ← requireToken quote.buyToken "buyToken"
  let helper ← requireToken quote.helper "helper"
  let sellToken ← requireToken quote.sellToken "sellToken"
  return Tree.render (.object [field "buyAmount" (amount quote.buyAmount),
    field "buyToken" (.text buyToken), field "domain" (.text quote.domain),
    field "helper" (.text helper), field "intentDigest" (.text (toLowerCase quote.intentDigest)),
    field "nonce" (.text (toLowerCase quote.nonce)), field "pool" (.text quote.pool),
    field "reservationExpiresAt" (.number quote.reservationExpiresAt),
    field "reservationId" (.text (toLowerCase quote.reservationId)),
    field "pricingProvenance" (.text quote.pricingProvenance),
    field "quoteExpiresAt" (.number quote.quoteExpiresAt),
    field "quotedAt" (.number quote.quotedAt), field "sellAmount" (amount quote.sellAmount),
    field "sellToken" (.text sellToken), field "solverId" (.text quote.solverId),
    field "solverKey" (.text quote.solverKey), field "spreadBps" (.number quote.spreadBps)])

/-! ## Version 2 -/

/-- `digest` of quotes of version 2, which trims nothing. -/
def quoteDigestText (value : Text) (label : String) : Except String Text := do
  let result := toLowerCase value
  throwIf (isDigest result = false) (label ++ " must be a digest.")
  return result

def canonicalSolverQuoteV2 (quote : UnsignedSolverQuoteV2) : Except String Text := do
  throwIf (quote.domain ≠ "app20/private-intent-quote/v2".toList)
    "Only production quote v2 is accepted."
  let _ ← Reservation.requirePositiveU256 quote.sellAmount "sellAmount"
  let _ ← Reservation.requirePositiveU256 quote.buyAmount "buyAmount"
  let _ ← Reservation.requirePositiveU256 quote.reservationFence "reservationFence"
  throwIf (isHex32 quote.nonce = false) "Quote nonce must be a 32-byte lowercase digest."
  let _ ← requireInteger quote.directoryEpoch "directoryEpoch" 0
  let _ ← requireInteger quote.spreadBps "spreadBps" 0
  let _ ← requireInteger quote.quotedAt "quotedAt" 1
  let _ ← requireInteger quote.quoteExpiresAt "quoteExpiresAt" 1
  let _ ← requireInteger quote.reservationExpiresAt "reservationExpiresAt" 1
  throwIf (quote.quoteExpiresAt ≤ quote.quotedAt ∨
      quote.reservationExpiresAt < quote.quoteExpiresAt)
    "Quote timestamps must be strictly ordered within the reservation window."
  let buyToken ← requireRfqFelt quote.buyToken "buyToken"
  let directoryDigest ← quoteDigestText quote.directoryDigest "directoryDigest"
  let escrowAddress ← requireRfqFelt quote.escrowAddress "escrowAddress"
  let escrowClassHash ← requireRfqFelt quote.escrowClassHash "escrowClassHash"
  let helper ← requireRfqFelt quote.helper "helper"
  let intentDigest ← quoteDigestText quote.intentDigest "intentDigest"
  let pricingProvenance ← Reservation.requireText quote.pricingProvenance "pricingProvenance"
  let quoteKeyId ← Reservation.requireText quote.solverKey "quoteKeyId"
  let registryRevision ← Reservation.requireText quote.registryRevision "registryRevision"
  let reservationId ← quoteDigestText quote.reservationId "reservationId"
  let rfqDigest ← quoteDigestText quote.rfqDigest "rfqDigest"
  let sellToken ← requireRfqFelt quote.sellToken "sellToken"
  let settlementContextDigest ←
    quoteDigestText quote.settlementContextDigest "settlementContextDigest"
  let solverId ← Reservation.requireText quote.solverId "solverId"
  return Tree.render (.object [field "buyAmount" (amount quote.buyAmount),
    field "buyToken" (.text buyToken), field "directoryDigest" (.text directoryDigest),
    field "directoryEpoch" (.number quote.directoryEpoch), field "domain" (.text quote.domain),
    field "escrowAddress" (.text escrowAddress), field "escrowClassHash" (.text escrowClassHash),
    field "helper" (.text helper), field "intentDigest" (.text intentDigest),
    field "nonce" (.text quote.nonce), field "pool" (.text quote.pool),
    field "pricingProvenance" (.text pricingProvenance),
    field "quoteExpiresAt" (.number quote.quoteExpiresAt),
    field "quoteKeyId" (.text quoteKeyId), field "quotedAt" (.number quote.quotedAt),
    field "registryRevision" (.text registryRevision),
    field "reservationExpiresAt" (.number quote.reservationExpiresAt),
    field "reservationFence" (amount quote.reservationFence),
    field "reservationId" (.text reservationId), field "rfqDigest" (.text rfqDigest),
    field "sellAmount" (amount quote.sellAmount), field "sellToken" (.text sellToken),
    field "settlementContextDigest" (.text settlementContextDigest),
    field "solverId" (.text solverId), field "spreadBps" (.number quote.spreadBps)])

/-! ## The stored form -/

theorem trim_object (fields : List (List Char × Tree)) :
    trim (Tree.render (.object fields)) = Tree.render (.object fields) := by
  obtain ⟨middle, hmiddle⟩ := Tree.render_object fields
  rw [hmiddle]
  apply trim_eq_self
  refine ⟨fun c hc => ?_, fun c hc => ?_⟩
  · cases hc
    rfl
  · rw [← List.cons_append, List.getLast?_append] at hc
    cases hc
    rfl

theorem trim_canonicalSolverQuote {quote : UnsignedSolverQuote} {t : Text}
    (h : canonicalSolverQuote quote = .ok t) : trim t = t := by
  simp only [canonicalSolverQuote, bind_ok, pure_ok] at h
  obtain ⟨_, -, _, -, _, -, rfl⟩ := h
  exact trim_object _

theorem trim_canonicalSolverQuoteV2 {quote : UnsignedSolverQuoteV2} {t : Text}
    (h : canonicalSolverQuoteV2 quote = .ok t) : trim t = t := by
  simp only [canonicalSolverQuoteV2, bind_ok, pure_ok] at h
  obtain ⟨_, -, _, -, _, -, _, -, _, -, _, -, _, -, _, -, _, -, _, -, _, -, _, -, _, -, _, -, _, -,
    _, -, _, -, _, -, _, -, _, -, _, -, _, -, _, -, _, -, _, -, rfl⟩ := h
  exact trim_object _

end App20.Maker
