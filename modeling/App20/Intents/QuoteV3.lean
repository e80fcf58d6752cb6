import App20.Intents.PriceSchedule
import App20.Intents.Rfq

/-!
# Solver quotes of version 3

The quote that a maker signs for a lock, and the checks that its canonical text passes.
-/

namespace App20.Intents

open App20.Lib App20.Domain
open App20.Reservation (requireText requireDigest)

/-! ## Data -/

structure UnsignedSolverQuoteV3 where
  domain : Text
  version : Int
  solverId : Text
  quoteKeyId : Text
  nonce : Text
  pool : Text
  helper : Text
  escrowAddress : Text
  rfqDigest : Text
  rfqFelt : Text
  sellToken : Text
  buyToken : Text
  schedule : List PriceSchedulePoint
  lockId : Text
  lockTicket : Text
  lockTransactionHash : Text
  lockExpiresAt : Int
  spreadBps : Int
  pricingProvenance : Text
  quotedAt : Int
  quoteExpiresAt : Int
  deriving DecidableEq

structure SolverQuoteV3 extends UnsignedSolverQuoteV3 where
  signature : Text
  deriving DecidableEq

def quoteV3Domain : Text := "app20/private-intent-quote/v3".toList

/-! ## The canonical body -/

/-- `requirePool` of quotes. -/
def requireQuotePool (value : Text) : Except String Text := do
  throwIf (value ≠ "starknet:SN_MAIN".toList ∧ value ≠ "starknet:SN_SEPOLIA".toList ∧
      value ≠ "starknet:APP20_LOCALNET".toList)
    "pool must name a supported STRK20 deployment."
  return value

def canonicalSchedule (schedule : List PriceSchedulePoint) :
    Except String (List PriceSchedulePoint) := do
  (assertPriceSchedule schedule).mapError ScheduleError.message
  return schedule

/-- `canonicalBody` of quotes: the fields of the canonical text. -/
def canonicalQuoteV3 (quote : UnsignedSolverQuoteV3) : Except String UnsignedSolverQuoteV3 := do
  throwIf (quote.domain ≠ quoteV3Domain ∨ quote.version ≠ 3) "Only solver quote v3 is supported."
  throwIf (isHex32 quote.nonce = false) "Quote v3 nonce must be a 32-byte lowercase digest."
  let sellToken ← requireRfqFelt quote.sellToken "sellToken"
  let buyToken ← requireRfqFelt quote.buyToken "buyToken"
  throwIf (sellToken = buyToken) "sellToken and buyToken must differ."
  let lockExpiresAt ← requireInteger quote.lockExpiresAt "lockExpiresAt" 1
  let quotedAt ← requireInteger quote.quotedAt "quotedAt" 1
  let quoteExpiresAt ← requireInteger quote.quoteExpiresAt "quoteExpiresAt" 1
  throwIf (quoteExpiresAt ≤ quotedAt ∨ lockExpiresAt < quoteExpiresAt)
    "Quote v3 expiry must be after quoting and no later than its lock expiry."
  let spreadBps ← requireInteger quote.spreadBps "spreadBps" 0
  throwIf (10000 ≤ spreadBps) "spreadBps must be an integer in [0, 10000)."
  let escrowAddress ← requireRfqFelt quote.escrowAddress "escrowAddress"
  let helper ← requireRfqFelt quote.helper "helper"
  let lockId ← requireRfqFelt quote.lockId "lockId"
  let lockTicket ← requireRfqFelt quote.lockTicket "lockTicket"
  let lockTransactionHash ← requireRfqFelt quote.lockTransactionHash "lockTransactionHash"
  let pool ← requireQuotePool quote.pool
  let pricingProvenance ← requireText quote.pricingProvenance "pricingProvenance"
  let quoteKeyId ← requireText quote.quoteKeyId "quoteKeyId"
  let rfqDigest ← requireDigest quote.rfqDigest "rfqDigest"
  let rfqFelt ← requireRfqFelt quote.rfqFelt "rfqFelt"
  let schedule ← canonicalSchedule quote.schedule
  let solverId ← requireText quote.solverId "solverId"
  return ⟨quote.domain, quote.version, solverId, quoteKeyId, quote.nonce, pool, helper,
    escrowAddress, rfqDigest, rfqFelt, sellToken, buyToken, schedule, lockId, lockTicket,
    lockTransactionHash, lockExpiresAt, spreadBps, pricingProvenance, quotedAt, quoteExpiresAt⟩

end App20.Intents
