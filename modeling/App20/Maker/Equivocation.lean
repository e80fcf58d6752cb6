import App20.Maker.QuoteTexts
import App20.Maker.Replays
import App20.Maker.Signatures

/-!
# Equivocation

A maker node with the texts and digests of the quote packages, over any steps.

* `never_equivocates`: it returns one signed quote for a reservation, and one for an RFQ of
  version 2.
-/

namespace App20.Maker

open App20.Lib App20.Domain App20.Intents

/-- A configuration with the canonical texts of quotes, and with digests of canonical RFQs. -/
def Config.standard (sha256 : Hash) (config : Config) : Config :=
  { config with
    canonicalSolverQuote := Maker.canonicalSolverQuote
    canonicalSolverQuoteV2 := Maker.canonicalSolverQuoteV2
    digestPrivateRfqV2 := fun rfq => digestText sha256 rfq.tree.render }

/-- Whatever calls overlap, fail, repeat or are cut off by a restart: the signed quotes that are
returned for one reservation are the same, and so are those that are returned for one RFQ digest,
which is that of the RFQ when the quote is made again for it. The random ids of new locks do not
repeat. -/
theorem never_equivocates (config : Config) (sha256 : Hash) (steps : List Step)
    (hids : (steps.filterMap Step.drawnLockId).Nodup) :
    (∀ y ∈ signaturesReturned (config.standard sha256) .empty steps,
      ∀ z ∈ signaturesReturned (config.standard sha256) .empty steps,
        y.reservationId = z.reservationId → y.number = z.number → y = z) ∧
    (∀ q ∈ quotesReturned (config.standard sha256) .empty steps,
      ∀ q' ∈ quotesReturned (config.standard sha256) .empty steps,
        q.rfqDigest = q'.rfqDigest → q = q') ∧ ∀ rfq answers now append q,
      quoteReturned (config.standard sha256) (reached (config.standard sha256) steps)
        (.quote rfq answers now append) = some q →
      ∃ canonical, canonicalPrivateRfqV2 rfq = .ok canonical ∧
        q.rfqDigest = digestText sha256 canonical.tree.render := by
  have htrimmed : TrimmedTexts (config.standard sha256) :=
    ⟨fun _ _ => trim_canonicalSolverQuote, fun _ _ => trim_canonicalSolverQuoteV2⟩
  refine ⟨(agreed_reached htrimmed steps).same, fun q hq q' hq' =>
    quotes_agree (fun _ => digestText_isHex32 sha256 _) hids hq hq', fun rfq answers now append q hq => ?_⟩
  exact replay_digest (soundNode_reached _ steps) hq

/-! ## A lock that is quoted twice -/

namespace QuotedTwice

def word (c : Char) : Text := '0' :: 'x' :: List.replicate 64 c

def sha256 : Hash := fun _ => Vector.replicate 32 0

def config : Config where
  makerId := "maker".toList
  solverKey := "key".toList
  pool := "starknet:APP20_LOCALNET".toList
  helper := "0x9".toList
  spreadBps := 0
  reservationTtlSeconds := 60
  tokenSymbol _ := some .strk
  commits := false
  digestPrivateRfq _ := word '0'
  digestPrivateRfqV2 _ := word '0'
  canonicalSolverQuote := canonicalSolverQuote
  canonicalSolverQuoteV2 := canonicalSolverQuoteV2
  quoteDigest _ := word '0'
  digestSolverQuoteV2 _ _ := .ok (word '0')

def rfq : PrivateRfqV2 where
  version := 2
  domain := privateRfqV2Domain
  rfqId := word '1'
  rfqFelt := "0x11".toList
  takerCommitment := "0x12".toList
  chainId := config.pool
  registryRevision := "1".toList
  directoryEpoch := 0
  settlementHelper := config.helper
  sellToken := "0x5".toList
  buyToken := "0x6".toList
  sellBucketMinBaseUnits := 10 ^ 18 / 20
  sellBucketMaxBaseUnits := 10 ^ 18 / 10
  createdAt := 100
  responseDeadline := 120
  expiresAt := 160
  lockExpiresAt := 160

def schedule : List PriceSchedulePoint := [⟨10 ^ 18 / 20, 100⟩, ⟨10 ^ 18 / 10, 200⟩]

def answers : QuoteAnswers :=
  ⟨.ok 1000, .ok (some ⟨schedule, 0, "source".toList⟩), .ok (some ⟨true, none, none⟩),
    .ok "0x77".toList, .ok (word '2')⟩

def chain : OnChainLock where
  tokenA := rfq.sellToken
  tokenB := rfq.buyToken
  rfqId := rfq.rfqFelt
  takerCommitment := rfq.takerCommitment
  expiry := 160
  schedule := schedule
  remainingB := 200
  earnedA := 0
  ticket := "0x99".toList
  proceedsSettled := false
  collateralReleased := false
  status := .opened

def digest : Digest := ⟨word '3', by decide⟩

/-- A lock is made and quoted, the node restarts, and the RFQ comes once more. -/
def steps : List Step :=
  [.quote rfq answers 110 .done, .answer 0 (.locked "0x99".toList "0xabc".toList chain),
    .commit 0 .done, .answer 0 (.signed "signature".toList digest), .commit 0 .done, .restart,
    .quote rfq { answers with lockId := .ok "0x78".toList } 111 .done]

end QuotedTwice

theorem never_equivocates_twice :
    (quotesReturned (QuotedTwice.config.standard QuotedTwice.sha256) .empty
      QuotedTwice.steps).length = 2 ∧
    ∀ q ∈ quotesReturned (QuotedTwice.config.standard QuotedTwice.sha256) .empty QuotedTwice.steps,
      ∀ q' ∈ quotesReturned (QuotedTwice.config.standard QuotedTwice.sha256) .empty
        QuotedTwice.steps, q.rfqDigest = q'.rfqDigest → q = q' :=
  ⟨by decide +kernel, (never_equivocates QuotedTwice.config QuotedTwice.sha256 QuotedTwice.steps
    (by decide +kernel)).2.1⟩

end App20.Maker
