import App20.Domain.Felt
import App20.Escrow.Contract
import App20.Intents.PriceSchedule

/-!
# Signed take messages

`takeMessageHash` computes, from text, the message that a taker signs; the escrow computes it
again from its own values. `TakeTuple` is what both are about, and `TakeTuple.message` is
written once for the two of them.
-/

namespace App20.Intents

open App20.Lib App20.Domain App20.Escrow App20.Starknet

/-! ## The client -/

/-- What `takeMessageHash` reports. -/
inductive TakeSignatureError where
  | notFelt (label : String)
  | zeroFelt (label : String)
  | sameTokens
  | fillCount
  | sameLockIds
  | amountA (index : Nat)
  deriving DecidableEq

def TakeSignatureError.message : TakeSignatureError → String
  | .notFelt label => label ++ " must be a Starknet felt."
  | .zeroFelt label => label ++ " must not be zero."
  | .sameTokens => "tokenA and tokenB must differ."
  | .fillCount => "Take authorization requires between one and four fills."
  | .sameLockIds => "Take authorization lock ids must differ."
  | .amountA index => "Take fill " ++ toString index ++ " amountA must be a positive u128 value."

structure TakeSignatureFill where
  lockId : Text
  amountA : Int

structure TakeMessageInput where
  chainId : Text
  escrowAddress : Text
  identityCommitment : Text
  rfqFelt : Text
  tokenA : Text
  tokenB : Text
  fills : List TakeSignatureFill

def takeDomainText : Text := "0x61707032302d74616b652d7634".toList

/-- `felt`, which all callers here use without `allowZero`. -/
def felt (value : Text) (label : String) : Except TakeSignatureError Text :=
  match canonicalizeStarknetFelt value with
  | none => .error (.notFelt label)
  | some canonical => if canonical = "0x0".toList then .error (.zeroFelt label) else .ok canonical

/-- The loop of `canonicalFills` over the fills from `index` on. -/
def canonicalFillsFrom (index : Nat) (seen : List Text) :
    List TakeSignatureFill → Except TakeSignatureError (List TakeSignatureFill)
  | [] => .ok []
  | fill :: fills => do
    let lockId ← felt fill.lockId ("Take fill " ++ toString index ++ " lockId")
    throwIf (lockId ∈ seen) .sameLockIds
    throwIf (fill.amountA ≤ 0 ∨ maxU128 < fill.amountA) (.amountA index)
    let rest ← canonicalFillsFrom (index + 1) (lockId :: seen) fills
    return ⟨lockId, fill.amountA⟩ :: rest

def canonicalFills (fills : List TakeSignatureFill) :
    Except TakeSignatureError (List TakeSignatureFill) := do
  throwIf (fills.length < 1 ∨ 4 < fills.length) .fillCount
  canonicalFillsFrom 0 [] fills

section Client

-- The hashing library is outside the repository.
variable (poseidonHashMany : List Nat → Nat)

def fillsDigest (fills : List TakeSignatureFill) : Except TakeSignatureError Text := do
  let canonical ← canonicalFills fills
  return hex (poseidonHashMany
    (canonical.flatMap fun fill => [bigInt fill.lockId, fill.amountA.toNat]))

def takeMessageHash (input : TakeMessageInput) : Except TakeSignatureError Text := do
  let chainId ← felt input.chainId "chainId"
  let escrowAddress ← felt input.escrowAddress "escrowAddress"
  let identityCommitment ← felt input.identityCommitment "identityCommitment"
  let rfqFelt ← felt input.rfqFelt "rfqFelt"
  let tokenA ← felt input.tokenA "tokenA"
  let tokenB ← felt input.tokenB "tokenB"
  throwIf (tokenA = tokenB) .sameTokens
  let digest ← fillsDigest poseidonHashMany input.fills
  return hex (poseidonHashMany
    [bigInt takeDomainText, bigInt chainId, bigInt escrowAddress, bigInt identityCommitment,
      bigInt rfqFelt, bigInt tokenA, bigInt tokenB, bigInt digest])

end Client

/-! ## What is signed -/

/-- What a take authorization is about, as values. -/
structure TakeTuple where
  chainId : Felt
  escrow : ContractAddress
  identityCommitment : Felt
  rfqId : Felt
  token : ContractAddress
  counterToken : ContractAddress
  fills : List TakeFill
  deriving DecidableEq

namespace TakeTuple

def fillsPreimage (t : TakeTuple) : List Felt :=
  t.fills.flatMap fun fill => [fill.lockId, into fill.amountA]

def preimage (hash : List Felt → Felt) (t : TakeTuple) : List Felt :=
  [takeDomain, t.chainId, into t.escrow, t.identityCommitment, t.rfqId, into t.token,
    into t.counterToken, hash t.fillsPreimage]

/-- The message that the escrow checks the taker's signature against. -/
def message (hash : List Felt → Felt) (t : TakeTuple) : Felt := hash (t.preimage hash)

def hashed (hash : List Felt → Felt) (t : TakeTuple) : Set (List Felt) :=
  {t.fillsPreimage, t.preimage hash}

/-- The fills can be read back from the flat list, whatever their number. -/
theorem flatMap_fills_injective : ∀ {fills fills' : List TakeFill},
    (fills.flatMap fun fill => [fill.lockId, (into fill.amountA : Felt)]) =
      (fills'.flatMap fun fill => [fill.lockId, (into fill.amountA : Felt)]) → fills = fills'
  | [], [], _ => rfl
  | [], _ :: _, h => by simp at h
  | _ :: _, [], h => by simp at h
  | ⟨lockId, amountA⟩ :: fills, ⟨lockId', amountA'⟩ :: fills', h => by
    simp only [List.flatMap_cons, List.cons_append, List.nil_append, List.cons.injEq] at h
    obtain ⟨hlock, hamount, hrest⟩ := h
    rw [Fin.ext_iff, into_val, into_val] at hamount
    rw [hlock, Fin.ext hamount, flatMap_fills_injective hrest]

/-- Equal messages come from equal tuples, unless the hash collides on what was hashed. -/
theorem message_injective {hash : List Felt → Felt} {S : Set (List Felt)}
    (hfree : S.InjOn hash) {t t' : TakeTuple} (ht : t.hashed hash ⊆ S)
    (ht' : t'.hashed hash ⊆ S) (h : t.message hash = t'.message hash) : t = t' := by
  have hpre : t.preimage hash = t'.preimage hash :=
    hfree (ht (by simp [hashed])) (ht' (by simp [hashed])) h
  simp only [preimage, List.cons.injEq, and_true, true_and] at hpre
  obtain ⟨hchain, hescrow, hidentity, hrfq, htoken, hcounter, hdigest⟩ := hpre
  have hfills : t.fillsPreimage = t'.fillsPreimage :=
    hfree (ht (by simp [hashed])) (ht' (by simp [hashed])) hdigest
  cases t
  cases t'
  simp only [fillsPreimage, Fin.ext_iff, into_val, TakeTuple.mk.injEq] at *
  exact ⟨hchain, hescrow, hidentity, hrfq, htoken, hcounter, flatMap_fills_injective hfills⟩

end TakeTuple

/-! ## The client signs the message of the escrow -/

/-- The text `s` is accepted and stands for the number `n`. -/
def Denotes (s : Text) (n : Nat) : Prop := canonicalizeStarknetFelt s = some (hex n)

structure FillDenotes (fill : TakeSignatureFill) (f : TakeFill) : Prop where
  lockId : Denotes fill.lockId f.lockId.val
  amountA : fill.amountA = f.amountA.val

/-- The tuple that an accepted input of the client stands for. -/
structure InputDenotes (input : TakeMessageInput) (t : TakeTuple) : Prop where
  chainId : Denotes input.chainId t.chainId.val
  escrowAddress : Denotes input.escrowAddress t.escrow.val
  identityCommitment : Denotes input.identityCommitment t.identityCommitment.val
  rfqFelt : Denotes input.rfqFelt t.rfqId.val
  tokenA : Denotes input.tokenA t.token.val
  tokenB : Denotes input.tokenB t.counterToken.val
  fills : List.Forall₂ FillDenotes input.fills t.fills

theorem felt_ok {value c : Text} {label : String} (h : felt value label = .ok c) :
    ∃ a : ContractAddress, c = hex a.val ∧ Denotes value a.val := by
  unfold felt at h
  cases hc : canonicalizeStarknetFelt value with
  | none =>
    rw [hc] at h
    cases h
  | some canonical =>
    rw [hc] at h
    dsimp only at h
    split at h
    · cases h
    · cases h
      obtain ⟨heq, hlt⟩ := canonicalizeStarknetFelt_spec hc
      exact ⟨⟨bigInt c, hlt⟩, heq, by rw [Denotes, hc, ← heq]⟩

def canonicalFill (f : TakeFill) : TakeSignatureFill := ⟨hex f.lockId.val, f.amountA.val⟩

theorem canonicalFillsFrom_ok {fills : List TakeSignatureFill} :
    ∀ {index : Nat} {seen : List Text} {canonical : List TakeSignatureFill},
      canonicalFillsFrom index seen fills = .ok canonical →
      ∃ fs : List TakeFill, List.Forall₂ FillDenotes fills fs ∧
        canonical = fs.map canonicalFill := by
  induction fills with
  | nil =>
    intro index seen canonical h
    cases h
    exact ⟨[], List.Forall₂.nil, rfl⟩
  | cons fill fills ih =>
    intro index seen canonical h
    simp only [canonicalFillsFrom, bind_ok, throwIf_ok, pure_ok] at h
    obtain ⟨lockId, hlock, -, -, -, hamount, rest, hrest, rfl⟩ := h
    obtain ⟨a, rfl, hdenotes⟩ := felt_ok hlock
    obtain ⟨fs, hfills, rfl⟩ := ih hrest
    have hlt : fill.amountA.toNat < 2 ^ 128 := by
      unfold maxU128 at hamount
      omega
    have hval : fill.amountA = ((⟨fill.amountA.toNat, hlt⟩ : U128).val : Int) := by
      dsimp only
      omega
    exact ⟨⟨into a, ⟨_, hlt⟩⟩ :: fs, List.Forall₂.cons ⟨hdenotes, hval⟩ hfills,
      by rw [List.map_cons, canonicalFill, ← hval]; rfl⟩

/-- The two hash functions, one on bigints and one on felts, are the same function. -/
def HashesAgree (poseidonHashMany : List Nat → Nat) (hash : List Felt → Felt) : Prop :=
  ∀ l : List Felt, poseidonHashMany (l.map Fin.val) = (hash l).val

theorem bigInt_takeDomainText : bigInt takeDomainText = takeDomain.val := by
  decide

section Agreement

variable {poseidonHashMany : List Nat → Nat} {hash : List Felt → Felt}
  (hagree : HashesAgree poseidonHashMany hash)
include hagree

theorem fillsDigest_ok {fills : List TakeSignatureFill} {digest : Text}
    (h : fillsDigest poseidonHashMany fills = .ok digest) :
    ∃ fs : List TakeFill, List.Forall₂ FillDenotes fills fs ∧
      digest = hex (hash (fs.flatMap fun f => [f.lockId, into f.amountA])).val := by
  simp only [fillsDigest, canonicalFills, bind_ok, throwIf_ok, pure_ok] at h
  obtain ⟨canonical, ⟨-, -, hcanonical⟩, rfl⟩ := h
  obtain ⟨fs, hfills, rfl⟩ := canonicalFillsFrom_ok hcanonical
  have hflat : ((fs.map canonicalFill).flatMap fun fill =>
      [bigInt fill.lockId, fill.amountA.toNat]) =
      (fs.flatMap fun f => [f.lockId, (into f.amountA : Felt)]).map Fin.val := by
    rw [List.flatMap_map, List.map_flatMap]
    simp [canonicalFill, bigInt_hex]
  exact ⟨fs, hfills, by rw [hflat, hagree]⟩

theorem message_val (t : TakeTuple) :
    (t.message hash).val = poseidonHashMany
      [takeDomain.val, t.chainId.val, t.escrow.val, t.identityCommitment.val, t.rfqId.val,
        t.token.val, t.counterToken.val, (hash t.fillsPreimage).val] := by
  rw [TakeTuple.message, ← hagree (t.preimage hash)]
  rfl

theorem takeMessageHash_ok {input : TakeMessageInput} {result : Text}
    (h : takeMessageHash poseidonHashMany input = .ok result) :
    ∃ t : TakeTuple, InputDenotes input t ∧ result = hex (t.message hash).val := by
  simp only [takeMessageHash, bind_ok, throwIf_ok, pure_ok] at h
  obtain ⟨_, hfelt1, _, hfelt2, _, hfelt3, _, hfelt4, _, hfelt5, _, hfelt6, -, -, _, hdigest,
    rfl⟩ := h
  obtain ⟨chainId, rfl, hchain⟩ := felt_ok hfelt1
  obtain ⟨escrow, rfl, hescrow⟩ := felt_ok hfelt2
  obtain ⟨identity, rfl, hidentity⟩ := felt_ok hfelt3
  obtain ⟨rfqId, rfl, hrfq⟩ := felt_ok hfelt4
  obtain ⟨token, rfl, htokenA⟩ := felt_ok hfelt5
  obtain ⟨counterToken, rfl, htokenB⟩ := felt_ok hfelt6
  obtain ⟨fs, hfills, rfl⟩ := fillsDigest_ok hagree hdigest
  refine ⟨⟨into chainId, escrow, into identity, into rfqId, token, counterToken, fs⟩,
    ⟨hchain, hescrow, hidentity, hrfq, htokenA, htokenB, hfills⟩, ?_⟩
  rw [message_val hagree]
  simp only [bigInt_hex, bigInt_takeDomainText, into_val]
  rfl

end Agreement

end App20.Intents
