import App20.Domain.CompareText
import App20.Domain.Decimal
import App20.Reservation.Codec

/-!
# Payloads of over-the-counter deals

The offers, acceptances, receipts and payment requests that arrive in messages. A parser reads any
JSON value; what it returns carries canonical addresses.

* `feltEquals_normal`: addresses in normal form that stand for one felt are the same text.
* `tokenRefsEqual_normal`: tokens in normal form that agree are the same.
* `parsePaymentRequestPayload_normal`, `parseAcceptPayload_normal`, `parseReceiptPayload_normal`,
  `parseOfferPayload_normal`: what is parsed is in normal form.
-/

namespace App20.Otc

open App20.Lib App20.Domain
open App20.Reservation (isObject maxSafeInteger)

/-! ## Addresses and amounts -/

def addrSTRK : Text := "0x04718f5a0fc34cc1af16a1cdee98ffb20c31f5cd61d6ab07201858f4287c938d".toList

/-- `feltEquals` of the web application compares canonical texts, as `starknetFeltEquals` does. -/
abbrev feltEquals (a b : Text) : Bool := starknetFeltEquals a b

def parseAddress (value : Option Json) : Option Text :=
  match value with
  | some (.string s) => canonicalizeStarknetFelt s
  | _ => none

def isFelt (s : Text) : Bool := (canonicalizeStarknetFelt s).isSome

/-- `isRandom32ByteId` -/
def parseId (value : Option Json) : Option Text :=
  match value with
  | some (.string s) => if isDigest s then some s else none
  | _ => none

def maxUint256 : Int := 2 ^ 256 - 1

def isPositiveBaseUnitAmount (s : Text) : Bool :=
  isDecimal s && decide (0 < decimalValue s ∧ decimalValue s ≤ maxUint256)

def parseAmount (value : Option Json) : Option Text :=
  match value with
  | some (.string s) => if isPositiveBaseUnitAmount s then some s else none
  | _ => none

/-- `isExpiry` -/
def parseExpiry (value : Option Json) : Option Int :=
  match value with
  | some (.number n) => if 0 ≤ n ∧ n ≤ maxSafeInteger then some n else none
  | _ => none

/-! ## Text from others -/

/-- `\p{Cf}`; a text has no surrogates. -/
def isFormat (c : Char) : Bool :=
  let n := c.toNat
  decide (n = 0xad ∨ (0x600 ≤ n ∧ n ≤ 0x605) ∨ n = 0x61c ∨ n = 0x6dd ∨ n = 0x70f ∨
    (0x890 ≤ n ∧ n ≤ 0x891) ∨ n = 0x8e2 ∨ n = 0x180e ∨ (0x200b ≤ n ∧ n ≤ 0x200f) ∨
    (0x202a ≤ n ∧ n ≤ 0x202e) ∨ (0x2060 ≤ n ∧ n ≤ 0x2064) ∨ (0x2066 ≤ n ∧ n ≤ 0x206f) ∨
    n = 0xfeff ∨ (0xfff9 ≤ n ∧ n ≤ 0xfffb) ∨ n = 0x110bd ∨ n = 0x110cd ∨
    (0x13430 ≤ n ∧ n ≤ 0x1343f) ∨ (0x1bca0 ≤ n ∧ n ≤ 0x1bca3) ∨ (0x1d173 ≤ n ∧ n ≤ 0x1d17a) ∨
    n = 0xe0001 ∨ (0xe0020 ≤ n ∧ n ≤ 0xe007f))

/-- `\p{Cc}` -/
def isControl (c : Char) : Bool := decide (c.toNat ≤ 0x1f ∨ (0x7f ≤ c.toNat ∧ c.toNat ≤ 0x9f))

def sanitizeUntrustedText (value : Text) : Text :=
  (value.filter fun c => !isFormat c).map fun c => if isControl c then ' ' else c

def maxShortText : Nat := 512

/-- `optionalShortText`: `none` is a text that is not allowed, `some none` one that is not there. -/
def optionalShortText (value : Option Json) : Option (Option Text) :=
  match value with
  | none => some none
  | some (.string s) =>
    if maxShortText < (codeUnits s).length then none else some (some (sanitizeUntrustedText s))
  | some _ => none

/-! ## Tokens -/

structure TokenRef where
  symbol : Text
  address : Text
  decimals : Int

def strkSymbol : Text := "STRK".toList
def strkDecimals : Int := 18
def maxTokenDecimals : Int := 255
def maxSymbolLength : Nat := 32

/-- `normalizeTokenRef`; `none` where canonicalization throws. -/
def normalizeTokenRef (token : TokenRef) : Option TokenRef :=
  if feltEquals token.address addrSTRK then some ⟨strkSymbol, addrSTRK, strkDecimals⟩
  else (canonicalizeStarknetFelt token.address).map fun address => { token with address }

def isCanonicalStrkToken (token : TokenRef) : Bool :=
  feltEquals token.address addrSTRK && token.decimals = strkDecimals && token.symbol = strkSymbol

def hasConsistentTokenMetadata (token : TokenRef) : Bool :=
  !feltEquals token.address addrSTRK || isCanonicalStrkToken token

def parseTokenRef (value : Option Json) : Option TokenRef := do
  let value ← value
  guard (isObject value = true)
  let address ← parseAddress (value.get? "address")
  match value.get? "symbol", value.get? "decimals" with
  | some (.string text), some (.number decimals) =>
    let symbol := trim (sanitizeUntrustedText text)
    guard (symbol ≠ [] ∧ (codeUnits text).length ≤ maxSymbolLength ∧
      (codeUnits symbol).length ≤ maxSymbolLength ∧ 0 ≤ decimals ∧ decimals ≤ maxTokenDecimals)
    let token : TokenRef := ⟨symbol, address, decimals⟩
    guard (hasConsistentTokenMetadata token = true)
    normalizeTokenRef token
  | _, _ => none

/-! ## Payloads -/

structure Leg where
  token : TokenRef
  amount : Text

structure Transfer where
  token : TokenRef
  amount : Text
  /-- `to` -/
  recipient : Text

structure OfferPayload where
  dealId : Text
  give : Leg
  want : Leg
  offerer : Text
  expiresAt : Int
  note : Option Text

structure AcceptPayload where
  dealId : Text
  offerIndex : Option Int
  transfer : Transfer

structure DeclinePayload where
  dealId : Text
  reason : Option Text

structure ReceiptPayload where
  dealId : Text
  txHash : Text
  transfer : Transfer
  warning : Text

structure PaymentRequestPayload where
  requestId : Text
  token : TokenRef
  amount : Text
  memo : Option Text
  expiresAt : Int
  requester : Text
  chainId : Option Text
  invoiceId : Option Text

def oneSidedWarning : Text := "one_sided_v1".toList
def maxChainIdLength : Nat := 80

def parseLeg (value : Option Json) : Option Leg := do
  let value ← value
  guard (isObject value = true)
  let token ← parseTokenRef (value.get? "token")
  let amount ← parseAmount (value.get? "amount")
  return ⟨token, amount⟩

def parseTransfer (value : Option Json) : Option Transfer := do
  let value ← value
  guard (isObject value = true)
  let token ← parseTokenRef (value.get? "token")
  let recipient ← parseAddress (value.get? "to")
  let amount ← parseAmount (value.get? "amount")
  return ⟨token, amount, recipient⟩

def parseOfferPayload (value : Json) : Option OfferPayload := do
  guard (isObject value = true)
  let give ← parseLeg (value.get? "give")
  let want ← parseLeg (value.get? "want")
  let offerer ← parseAddress (value.get? "offerer")
  let note ← optionalShortText (value.get? "note")
  let dealId ← parseId (value.get? "dealId")
  let expiresAt ← parseExpiry (value.get? "expiresAt")
  return ⟨dealId, give, want, offerer, expiresAt, note⟩

/-- The place of an offer among several: not there, or not negative. -/
def parseOfferIndex (value : Option Json) : Option (Option Int) :=
  match value with
  | none => some none
  | some (.number n) => if 0 ≤ n ∧ n ≤ maxSafeInteger then some (some n) else none
  | some _ => none

def parseAcceptPayload (value : Json) : Option AcceptPayload := do
  guard (isObject value = true)
  let transfer ← parseTransfer (value.get? "transfer")
  let dealId ← parseId (value.get? "dealId")
  let offerIndex ← parseOfferIndex (value.get? "offerIndex")
  return ⟨dealId, offerIndex, transfer⟩

def parseDeclinePayload (value : Json) : Option DeclinePayload := do
  guard (isObject value = true)
  let reason ← optionalShortText (value.get? "reason")
  let dealId ← parseId (value.get? "dealId")
  return ⟨dealId, reason⟩

def isText (value : Option Json) (text : Text) : Bool :=
  match value with
  | some (.string s) => s = text
  | _ => false

def parseReceiptPayload (value : Json) : Option ReceiptPayload := do
  guard (isObject value = true)
  let transfer ← parseTransfer (value.get? "transfer")
  let dealId ← parseId (value.get? "dealId")
  match value.get? "txHash" with
  | some (.string txHash) =>
    guard (isFelt txHash = true ∧ isText (value.get? "warning") oneSidedWarning = true)
    return ⟨dealId, txHash, transfer, oneSidedWarning⟩
  | _ => none

/-- `typeof value.chainId === "string" && value.chainId.length <= 80`, and is left out otherwise. -/
def parseChainId (value : Option Json) : Option Text :=
  match value with
  | some (.string s) => if (codeUnits s).length ≤ maxChainIdLength then some s else none
  | _ => none

def parseInvoiceId (value : Option Json) : Option Text :=
  match value with
  | some (.string s) => some s
  | _ => none

def parsePaymentRequestPayload (value : Json) : Option PaymentRequestPayload := do
  guard (isObject value = true)
  let requestId ← (parseId (value.get? "requestId")).or (parseId (value.get? "invoiceId"))
  let token ← parseTokenRef (value.get? "token")
  let requester ← parseAddress (value.get? "requester")
  let memo ← optionalShortText (value.get? "memo")
  let amount ← parseAmount (value.get? "amount")
  let expiresAt ← parseExpiry (value.get? "expiresAt")
  return ⟨requestId, token, amount, memo, expiresAt, requester, parseChainId (value.get? "chainId"),
    parseInvoiceId (value.get? "invoiceId")⟩

/-! ## Comparing -/

def tokenRefsEqual (left right : TokenRef) : Bool :=
  feltEquals left.address right.address && left.symbol = right.symbol &&
    left.decimals = right.decimals

def transfersEqual (left right : Transfer) : Bool :=
  tokenRefsEqual left.token right.token && left.amount = right.amount &&
    feltEquals left.recipient right.recipient

/-- An expiry of 0 is none. -/
def isExpired (expiresAt now : Int) : Bool := expiresAt ≠ 0 && expiresAt ≤ now

def offerIsExpired (offer : OfferPayload) (now : Int) : Bool := isExpired offer.expiresAt now

def paymentRequestIsExpired (request : PaymentRequestPayload) (now : Int) : Bool :=
  isExpired request.expiresAt now

/-! ## Normal forms -/

/-- The canonical text of a felt, or the address of STRK as it is written in the source. -/
def IsNormal (address : Text) : Prop :=
  canonicalizeStarknetFelt address = some address ∧ feltEquals address addrSTRK = false ∨
    address = addrSTRK

theorem canonical_of_canonicalize {s c : Text} (h : canonicalizeStarknetFelt s = some c) :
    canonicalizeStarknetFelt c = some c := by
  obtain ⟨hhex, hlt⟩ := canonicalizeStarknetFelt_spec h
  rw [hhex]
  exact canonicalizeStarknetFelt_hex hlt

theorem feltEquals_canonical {a b : Text} (ha : canonicalizeStarknetFelt a = some a)
    (hb : canonicalizeStarknetFelt b = some b) (h : feltEquals a b = true) : a = b := by
  unfold feltEquals starknetFeltEquals at h
  rw [ha, hb] at h
  exact eq_of_beq h

theorem feltEquals_comm (a b : Text) : feltEquals a b = feltEquals b a := by
  unfold feltEquals starknetFeltEquals
  cases canonicalizeStarknetFelt a with
  | none => cases canonicalizeStarknetFelt b <;> rfl
  | some l =>
    cases canonicalizeStarknetFelt b with
    | none => rfl
    | some r => exact Bool.beq_comm

theorem feltEquals_normal {a b : Text} (ha : IsNormal a) (hb : IsNormal b)
    (h : feltEquals a b = true) : a = b := by
  rcases ha with ⟨ha, hastrk⟩ | rfl
  · rcases hb with ⟨hb, -⟩ | rfl
    · exact feltEquals_canonical ha hb h
    · exact absurd (hastrk.symm.trans h) Bool.false_ne_true
  · rcases hb with ⟨-, hbstrk⟩ | rfl
    · rw [feltEquals_comm] at h
      exact absurd (hbstrk.symm.trans h) Bool.false_ne_true
    · rfl

theorem normalizeTokenRef_normal {token token' : TokenRef}
    (h : normalizeTokenRef token = some token') : IsNormal token'.address := by
  unfold normalizeTokenRef at h
  split at h
  · cases h
    exact .inr rfl
  · rename_i hstrk
    obtain ⟨address, haddress, rfl⟩ := Option.map_eq_some_iff.mp h
    have hcanonical := canonical_of_canonicalize haddress
    refine .inl ⟨hcanonical, ?_⟩
    rw [← Bool.not_eq_true]
    intro hequal
    apply hstrk
    unfold feltEquals starknetFeltEquals at hequal ⊢
    rw [hcanonical] at hequal
    rw [haddress]
    exact hequal

theorem parseAddress_canonical {value : Option Json} {address : Text}
    (h : parseAddress value = some address) : canonicalizeStarknetFelt address = some address := by
  unfold parseAddress at h
  split at h
  · exact canonical_of_canonicalize h
  · cases h

theorem parseTokenRef_normal {value : Option Json} {token : TokenRef}
    (h : parseTokenRef value = some token) : IsNormal token.address := by
  simp only [parseTokenRef, Option.bind_eq_bind, Option.bind_eq_some_iff] at h
  obtain ⟨v, -, u, -, address, -, h⟩ := h
  split at h
  · simp only [Option.bind_eq_some_iff] at h
    obtain ⟨-, -, -, -, h⟩ := h
    exact normalizeTokenRef_normal h
  · cases h

theorem parsePaymentRequestPayload_normal {value : Json} {request : PaymentRequestPayload}
    (h : parsePaymentRequestPayload value = some request) :
    IsNormal request.token.address ∧
      canonicalizeStarknetFelt request.requester = some request.requester := by
  simp only [parsePaymentRequestPayload, Option.bind_eq_bind, Option.bind_eq_some_iff,
    Option.pure_def, Option.some.injEq] at h
  obtain ⟨-, -, requestId, -, token, htoken, requester, hrequester, memo, -, amount, -, expiresAt,
    -, rfl⟩ := h
  exact ⟨parseTokenRef_normal htoken, parseAddress_canonical hrequester⟩

theorem tokenRefsEqual_normal {left right : TokenRef} (hleft : IsNormal left.address)
    (hright : IsNormal right.address) (h : tokenRefsEqual left right = true) : left = right := by
  unfold tokenRefsEqual at h
  simp only [Bool.and_eq_true, decide_eq_true_eq] at h
  obtain ⟨⟨haddress, hsymbol⟩, hdecimals⟩ := h
  cases left with
  | mk symbol address decimals =>
    cases right with
    | mk symbol' address' decimals' =>
      exact congr (congr (congrArg TokenRef.mk hsymbol)
        (feltEquals_normal hleft hright haddress)) hdecimals

theorem transfersEqual_normal {left right : Transfer} (hleft : IsNormal left.token.address)
    (hright : IsNormal right.token.address)
    (hto : canonicalizeStarknetFelt left.recipient = some left.recipient)
    (hto' : canonicalizeStarknetFelt right.recipient = some right.recipient)
    (h : transfersEqual left right = true) : left = right := by
  simp only [transfersEqual, Bool.and_eq_true, decide_eq_true_eq] at h
  obtain ⟨⟨htoken, hamount⟩, hrecipient⟩ := h
  cases left with
  | mk token amount recipient =>
    cases right with
    | mk token' amount' recipient' =>
      exact congr (congr (congrArg Transfer.mk (tokenRefsEqual_normal hleft hright htoken)) hamount)
        (feltEquals_canonical hto hto' hrecipient)

theorem parseTransfer_normal {value : Option Json} {transfer : Transfer}
    (h : parseTransfer value = some transfer) : IsNormal transfer.token.address ∧
      canonicalizeStarknetFelt transfer.recipient = some transfer.recipient := by
  simp only [parseTransfer, Option.bind_eq_bind, Option.bind_eq_some_iff, Option.pure_def,
    Option.some.injEq] at h
  obtain ⟨v, -, u, -, token, htoken, recipient, hrecipient, amount, -, rfl⟩ := h
  exact ⟨parseTokenRef_normal htoken, parseAddress_canonical hrecipient⟩

theorem parseAcceptPayload_normal {value : Json} {accept : AcceptPayload}
    (h : parseAcceptPayload value = some accept) : IsNormal accept.transfer.token.address ∧
      canonicalizeStarknetFelt accept.transfer.recipient = some accept.transfer.recipient := by
  simp only [parseAcceptPayload, Option.bind_eq_bind, Option.bind_eq_some_iff, Option.pure_def,
    Option.some.injEq] at h
  obtain ⟨u, -, transfer, htransfer, dealId, -, offerIndex, -, rfl⟩ := h
  exact parseTransfer_normal htransfer

theorem parseReceiptPayload_normal {value : Json} {receipt : ReceiptPayload}
    (h : parseReceiptPayload value = some receipt) : IsNormal receipt.transfer.token.address ∧
      canonicalizeStarknetFelt receipt.transfer.recipient = some receipt.transfer.recipient := by
  simp only [parseReceiptPayload, Option.bind_eq_bind, Option.bind_eq_some_iff] at h
  obtain ⟨u, -, transfer, htransfer, dealId, -, h⟩ := h
  split at h
  · simp only [Option.bind_eq_some_iff, Option.pure_def, Option.some.injEq] at h
    obtain ⟨v, -, rfl⟩ := h
    exact parseTransfer_normal htransfer
  · cases h

theorem parseOfferPayload_normal {value : Json} {offer : OfferPayload}
    (h : parseOfferPayload value = some offer) : IsNormal offer.give.token.address ∧
      canonicalizeStarknetFelt offer.offerer = some offer.offerer := by
  simp only [parseOfferPayload, Option.bind_eq_bind, Option.bind_eq_some_iff, Option.pure_def,
    Option.some.injEq] at h
  obtain ⟨u, -, give, hgive, want, -, offerer, hofferer, note, -, dealId, -, expiresAt, -, rfl⟩ := h
  simp only [parseLeg, Option.bind_eq_bind, Option.bind_eq_some_iff, Option.pure_def,
    Option.some.injEq] at hgive
  obtain ⟨v, -, w, -, token, htoken, amount, -, rfl⟩ := hgive
  exact ⟨parseTokenRef_normal htoken, parseAddress_canonical hofferer⟩

end App20.Otc
