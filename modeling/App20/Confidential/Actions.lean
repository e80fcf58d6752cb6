import App20.Lib.Wire
import App20.Starknet.Types

/-!
# The private operation of a confidential escrow

What the two parties agree on (`Terms`), and the calldata of `compile_actions`: the user, the
viewing key and a list of client actions, written to a flat list of felts. An action is its
kind followed by a body; `widths` are the lengths of the bodies that the harness of the pinned
pool uses for the kinds below 8, and the two kinds after them carry spans.

`Action.prefixCode` is what makes the calldata readable: no two lists of actions are written
the same way.
-/

namespace App20.Confidential

open App20.Lib App20.Starknet

/-! ## Terms -/

structure Terms where
  tokenA : ContractAddress
  tokenB : ContractAddress
  amountA : U128
  amountB : U128
  partyA : ContractAddress
  partyB : ContractAddress
  salt : Felt

namespace Terms

def serialize (t : Terms) : List Felt :=
  [into t.tokenA, into t.tokenB, into t.amountA, into t.amountB, into t.partyA, into t.partyB,
    t.salt]

/-- The terms at the front of the data, when every felt fits its field. -/
def deserialize : List Felt → Option (Terms × List Felt)
  | tokenA :: tokenB :: amountA :: amountB :: partyA :: partyB :: salt :: rest => do
    let tokenA ← tryInto (2 ^ 251) tokenA
    let tokenB ← tryInto (2 ^ 251) tokenB
    let amountA ← tryInto (2 ^ 128) amountA
    let amountB ← tryInto (2 ^ 128) amountB
    let partyA ← tryInto (2 ^ 251) partyA
    let partyB ← tryInto (2 ^ 251) partyB
    return (⟨tokenA, tokenB, amountA, amountB, partyA, partyB, salt⟩, rest)
  | _ => none

theorem deserialize_serialize (t : Terms) (rest : List Felt) :
    deserialize (t.serialize ++ rest) = some (t, rest) := by
  simp only [serialize, List.cons_append, List.nil_append, deserialize, tryInto_into]
  rfl

theorem deserialize_eq_some {data rest : List Felt} {t : Terms} :
    deserialize data = some (t, rest) ↔ data = t.serialize ++ rest := by
  constructor
  · intro h
    unfold deserialize at h
    split at h
    · simp only [bind, Option.bind_eq_some_iff, pure, Option.some.injEq, Prod.mk.injEq,
        tryInto_eq_some] at h
      obtain ⟨_, ha, _, hb, _, hc, _, hd, _, he, _, hf, rfl, rfl⟩ := h
      simp only [serialize, List.cons_append, List.nil_append, List.cons.injEq, Fin.ext_iff,
        into_val]
      exact ⟨ha.symm, hb.symm, hc.symm, hd.symm, he.symm, hf.symm, trivial⟩
    · cases h
  · rintro rfl
    exact deserialize_serialize t rest

end Terms

/-! ## Client actions -/

/-- The length of a span fits a `u32`. -/
abbrev Span (α : Type) := {as : List α // as.length < 2 ^ 32}

/-- A length as it is written in front of a span. -/
def lengthFelt (n : Nat) : Felt := Fin.ofNat fieldPrime n

theorem lengthFelt_val {n : Nat} (h : n < 2 ^ 32) : (lengthFelt n).val = n :=
  Nat.mod_eq_of_lt (h.trans (by decide))

def serializeSpan (s : Span Felt) : List Felt := encodeList lengthFelt (fun x => [x]) s.val

theorem lengthFelt_injective (m n : Nat) (hm : m < 2 ^ 32) (hn : n < 2 ^ 32)
    (h : lengthFelt m = lengthFelt n) : m = n := by
  rw [← lengthFelt_val hm, ← lengthFelt_val hn, h]

theorem prefixCode_serializeSpan : PrefixCode serializeSpan :=
  prefixCode_singleton.encodeList lengthFelt_injective

/-- The client actions of the pool. The felts without a name are never looked at. -/
inductive Action where
  | setViewingKey (x : Felt)
  | openChannel (recipient x y z : Felt)
  | openSubchannel (recipient x y z token w : Felt)
  | createEncNote (recipient x token : Felt) (amount : U128) (y z : Felt)
  | createOpenNote (x y z v w : Felt)
  | deposit (x y : Felt)
  | useNote (x token y : Felt)
  | withdraw (x y z v w : Felt)
  | invokeExternal (target : Felt) (calldata : Span Felt)
  | computeAndInvoke (target : Felt) (computeData invokeData : Span Felt)

namespace Action

def kind : Action → Nat
  | .setViewingKey .. => 0
  | .openChannel .. => 1
  | .openSubchannel .. => 2
  | .createEncNote .. => 3
  | .createOpenNote .. => 4
  | .deposit .. => 5
  | .useNote .. => 6
  | .withdraw .. => 7
  | .invokeExternal .. => 8
  | .computeAndInvoke .. => 9

def body : Action → List Felt
  | .setViewingKey x => [x]
  | .openChannel recipient x y z => [recipient, x, y, z]
  | .openSubchannel recipient x y z token w => [recipient, x, y, z, token, w]
  | .createEncNote recipient x token amount y z => [recipient, x, token, into amount, y, z]
  | .createOpenNote x y z v w => [x, y, z, v, w]
  | .deposit x y => [x, y]
  | .useNote x token y => [x, token, y]
  | .withdraw x y z v w => [x, y, z, v, w]
  | .invokeExternal target calldata => target :: serializeSpan calldata
  | .computeAndInvoke target computeData invokeData =>
    target :: (serializeSpan computeData ++ serializeSpan invokeData)

def encode (a : Action) : List Felt := lengthFelt a.kind :: a.body

/-- The lengths of the bodies of the kinds below 8. -/
def widths : List Nat := [1, 4, 6, 6, 5, 2, 3, 5]

theorem kind_lt (a : Action) : a.kind < 10 := by
  cases a <;> simp [kind]

theorem kind_eq {a b : Action} (h : lengthFelt a.kind = lengthFelt b.kind) : a.kind = b.kind :=
  lengthFelt_injective _ _ (a.kind_lt.trans (by decide)) (b.kind_lt.trans (by decide)) h

theorem body_eq {a b : Action} {s t : List Felt} (hkind : a.kind = b.kind)
    (hbody : a.body ++ s = b.body ++ t) : a = b ∧ s = t := by
  cases a <;> cases b <;> simp [kind] at hkind
  case invokeExternal.invokeExternal =>
    obtain ⟨rfl, hrest⟩ := List.cons.inj hbody
    obtain ⟨rfl, rfl⟩ := prefixCode_serializeSpan hrest
    exact ⟨rfl, rfl⟩
  case computeAndInvoke.computeAndInvoke =>
    simp only [body, List.cons_append, List.append_assoc, List.cons.injEq] at hbody
    obtain ⟨rfl, hrest⟩ := hbody
    obtain ⟨rfl, hinvoke⟩ := prefixCode_serializeSpan hrest
    obtain ⟨rfl, rfl⟩ := prefixCode_serializeSpan hinvoke
    exact ⟨rfl, rfl⟩
  all_goals simpa [body, and_assoc, into, Fin.ext_iff] using hbody

theorem prefixCode : PrefixCode encode := by
  intro a b s t h
  obtain ⟨hkind, hbody⟩ := List.cons.inj h
  exact body_eq (kind_eq hkind) hbody

end Action

/-! ## Bundles -/

/-- The calldata of `compile_actions` besides the user. -/
structure Bundle where
  viewingKey : Felt
  actions : Span Action

def Bundle.encode (user : ContractAddress) (b : Bundle) : List Felt :=
  into user :: b.viewingKey :: encodeList lengthFelt Action.encode b.actions.val

/-- A bundle is read off its calldata in one way. -/
theorem Bundle.encode_injective (user : ContractAddress) :
    Function.Injective (Bundle.encode user) := by
  rintro ⟨_, actions⟩ ⟨_, actions'⟩ h
  obtain ⟨rfl, hactions⟩ := List.cons.inj (List.cons.inj h).2
  obtain rfl := (Action.prefixCode.encodeList lengthFelt_injective).injective hactions
  rfl

end App20.Confidential
