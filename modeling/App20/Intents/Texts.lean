import App20.Intents.QuoteV3
import App20.Lib.Bytes
import App20.Lib.JsonText

/-!
# Canonical texts

The texts of RFQs of version 2 and of quotes of version 3 that are hashed and signed, and the
digests that are made of such texts.

* `PrivateRfqV2.tree_injective`, `UnsignedSolverQuoteV3.tree_injective`: a canonical text fixes the
  values that it is written of.
* `digestText_isHex32`: a digest is a 32-byte hex value.
-/

namespace App20.Intents

open App20.Lib App20.Domain

/-! ## Writing -/

def field (name : String) (value : Tree) : List Char × Tree := (name.toList, value)

/-- An amount, which is written between quotes. -/
def amount (n : Int) : Tree := .text (decimal n)

theorem amount_injective : Function.Injective amount := by
  intro m n h
  exact decimal_injective (Tree.text.inj h)

def PriceSchedulePoint.tree (p : PriceSchedulePoint) : Tree :=
  .object [field "a" (amount p.a), field "b" (amount p.b)]

theorem PriceSchedulePoint.tree_injective : Function.Injective PriceSchedulePoint.tree := by
  intro p q h
  simp only [PriceSchedulePoint.tree, field, Tree.object.injEq, List.cons.injEq, Prod.mk.injEq,
    amount_injective.eq_iff, true_and, and_true] at h
  obtain ⟨pa, pb⟩ := p
  obtain ⟨qa, qb⟩ := q
  obtain ⟨rfl, rfl⟩ := h
  rfl

/-! ## RFQs -/

/-- What is written of a canonical RFQ. -/
def PrivateRfqV2.tree (rfq : PrivateRfqV2) : Tree :=
  .object [field "buyToken" (.text rfq.buyToken), field "chainId" (.text rfq.chainId),
    field "createdAt" (.number rfq.createdAt), field "directoryEpoch" (.number rfq.directoryEpoch),
    field "domain" (.text rfq.domain), field "expiresAt" (.number rfq.expiresAt),
    field "lockExpiresAt" (.number rfq.lockExpiresAt),
    field "registryRevision" (.text rfq.registryRevision),
    field "responseDeadline" (.number rfq.responseDeadline), field "rfqFelt" (.text rfq.rfqFelt),
    field "rfqId" (.text rfq.rfqId),
    field "sellBucketMaxBaseUnits" (amount rfq.sellBucketMaxBaseUnits),
    field "sellBucketMinBaseUnits" (amount rfq.sellBucketMinBaseUnits),
    field "sellToken" (.text rfq.sellToken),
    field "settlementHelper" (.text rfq.settlementHelper),
    field "takerCommitment" (.text rfq.takerCommitment), field "version" (.number rfq.version)]

theorem PrivateRfqV2.tree_injective : Function.Injective PrivateRfqV2.tree := by
  intro x y h
  cases x
  cases y
  simp only [PrivateRfqV2.tree, field, Tree.object.injEq, List.cons.injEq, Prod.mk.injEq,
    amount_injective.eq_iff, Tree.text.injEq, Tree.number.injEq, true_and, and_true] at h
  grind

/-! ## Quotes -/

/-- What is written of a canonical quote. -/
def UnsignedSolverQuoteV3.tree (quote : UnsignedSolverQuoteV3) : Tree :=
  .object [field "buyToken" (.text quote.buyToken), field "domain" (.text quote.domain),
    field "escrowAddress" (.text quote.escrowAddress), field "helper" (.text quote.helper),
    field "lockExpiresAt" (.number quote.lockExpiresAt), field "lockId" (.text quote.lockId),
    field "lockTicket" (.text quote.lockTicket),
    field "lockTransactionHash" (.text quote.lockTransactionHash),
    field "nonce" (.text quote.nonce), field "pool" (.text quote.pool),
    field "pricingProvenance" (.text quote.pricingProvenance),
    field "quoteExpiresAt" (.number quote.quoteExpiresAt),
    field "quoteKeyId" (.text quote.quoteKeyId), field "quotedAt" (.number quote.quotedAt),
    field "rfqDigest" (.text quote.rfqDigest), field "rfqFelt" (.text quote.rfqFelt),
    field "schedule" (.array (quote.schedule.map PriceSchedulePoint.tree)),
    field "sellToken" (.text quote.sellToken), field "solverId" (.text quote.solverId),
    field "spreadBps" (.number quote.spreadBps), field "version" (.number quote.version)]

theorem UnsignedSolverQuoteV3.tree_injective : Function.Injective UnsignedSolverQuoteV3.tree := by
  intro x y h
  cases x
  cases y
  simp only [UnsignedSolverQuoteV3.tree, field, Tree.object.injEq, List.cons.injEq, Prod.mk.injEq,
    Tree.text.injEq, Tree.number.injEq, Tree.array.injEq,
    (List.map_injective_iff.mpr PriceSchedulePoint.tree_injective).eq_iff, true_and, and_true] at h
  grind

/-! ## Digests -/

/-- SHA-256 of the UTF-8 bytes of a text. -/
abbrev Hash := Text → Vector (Fin 256) 32

def bytesToHex (bytes : List (Fin 256)) : Text :=
  bytes.flatMap fun b => [(b.val / 16).digitChar, (b.val % 16).digitChar]

/-- `sha256Hex` -/
def digestText (sha256 : Hash) (canonical : Text) : Text :=
  '0' :: 'x' :: bytesToHex (sha256 canonical).toList

theorem isLowerHexDigit_digitChar {d : Nat} (h : d < 16) : isLowerHexDigit d.digitChar = true := by
  have key : ∀ d : Fin 16, isLowerHexDigit d.val.digitChar = true := by decide
  exact key ⟨d, h⟩

theorem bytesToHex_spec (bytes : List (Fin 256)) :
    (bytesToHex bytes).length = 2 * bytes.length ∧
      (bytesToHex bytes).all isLowerHexDigit = true := by
  induction bytes with
  | nil => exact ⟨rfl, rfl⟩
  | cons b bytes ih =>
    have hhigh := isLowerHexDigit_digitChar (d := b.val / 16) (by omega)
    have hlow := isLowerHexDigit_digitChar (d := b.val % 16) (by omega)
    have hcons : bytesToHex (b :: bytes) =
        (b.val / 16).digitChar :: (b.val % 16).digitChar :: bytesToHex bytes := rfl
    rw [hcons]
    refine ⟨?_, ?_⟩
    · simp only [List.length_cons, ih.1]
      omega
    · simp only [List.all_cons, hhigh, hlow, ih.2, Bool.and_self]

theorem byteToHex_prefixCode : PrefixCode fun b : Fin 256 =>
    [(b.val / 16).digitChar, (b.val % 16).digitChar] := by
  intro a b s t h
  have hdigit : ∀ m n : Fin 16, m.val.digitChar = n.val.digitChar → m = n := by decide
  obtain ⟨hhigh, hrest⟩ := List.cons.inj h
  obtain ⟨hlow, htail⟩ := List.cons.inj hrest
  have hdiv := hdigit ⟨a.val / 16, by omega⟩ ⟨b.val / 16, by omega⟩ hhigh
  have hmod := hdigit ⟨a.val % 16, by omega⟩ ⟨b.val % 16, by omega⟩ hlow
  simp only [Fin.mk.injEq] at hdiv hmod
  exact ⟨Fin.ext (by omega), htail⟩

theorem digestText_inj {sha256 : Hash} {s t : Text}
    (h : digestText sha256 s = digestText sha256 t) : sha256 s = sha256 t := by
  have hbytes : bytesToHex (sha256 s).toList = bytesToHex (sha256 t).toList :=
    (List.cons.inj (List.cons.inj h).2).2
  have hlen : (sha256 s).toList.length = (sha256 t).toList.length := by
    rw [Vector.length_toList, Vector.length_toList]
  have hlists := (byteToHex_prefixCode.flatMap hlen (congrArg (· ++ []) hbytes)).1
  exact Vector.toList_inj.mp hlists

theorem digestText_isHex32 (sha256 : Hash) (canonical : Text) :
    isHex32 (digestText sha256 canonical) = true := by
  obtain ⟨hlength, hdigits⟩ := bytesToHex_spec (sha256 canonical).toList
  have hlen : (bytesToHex (sha256 canonical).toList).length = 64 := by
    rw [hlength, Vector.length_toList]
  simp only [digestText, isHex32, hlen, hdigits, decide_true, Bool.and_self]

end App20.Intents
