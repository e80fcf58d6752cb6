import App20.Lib.Exec
import App20.Starknet.Types

/-!
# Contracts and what they call

The state of a contract is its storage, the joint state `X` of all other contracts and the
events it has emitted. A call into another contract is a partial function on `X`; it gives
`none` when the called contract reverts, and so does the caller then.
-/

namespace App20.Starknet

open App20.Lib App20.Lib.Exec

/-- What a helper contract hands to the privacy pool: the pool fetches the amount into the
note. -/
structure OpenNoteDeposit where
  noteId : Felt
  token : ContractAddress
  amount : U128
  deriving DecidableEq

structure ContractState (S E X : Type) where
  storage : S
  world : X
  events : List E

abbrev ContractM (ε S E X : Type) := Exec (Panic ε) (ContractState S E X)

variable {ε S E X α β : Type}

def external (f : X → Option (α × X)) : ContractM ε S E X α := do
  let s ← get
  let (a, x) ← expect (f s.world) .callReverted
  modify fun s => { s with world := x }
  return a

def readStorage : ContractM ε S E X S := do
  return (← get).storage

def writeStorage (f : S → S) : ContractM ε S E X Unit :=
  modify fun s => { s with storage := f s.storage }

def emit (ev : E) : ContractM ε S E X Unit := modify fun s => { s with events := s.events ++ [ev] }

/-! ## Calls that return -/

variable {f : S → S} {ev : E}

section Returns

variable {s t : ContractState S E X} {b : β} {e : Panic ε}

theorem returns_external {f : X → Option (α × X)} {a : α} :
    Returns (external f : ContractM ε S E X α) s a t ↔
      ∃ x, f s.world = some (a, x) ∧ t = { s with world := x } := by
  simp only [external, returns_bind, returns_get, returns_expect, returns_modify, returns_pure,
    Prod.exists, and_assoc, exists_and_left, exists_eq_left, exists_const]
  constructor
  · rintro ⟨b, x, h, rfl, rfl⟩
    exact ⟨x, h, rfl⟩
  · rintro ⟨x, h, rfl⟩
    exact ⟨a, x, h, rfl, rfl⟩

theorem fails_external {f : X → Option (α × X)} :
    Fails (external f : ContractM ε S E X α) s e ↔ f s.world = none ∧ e = .callReverted := by
  simp only [external, fails_bind, returns_get, not_fails_get, fails_expect, not_fails_modify,
    not_fails_pure, false_or, or_false, and_false, exists_false, and_assoc, exists_and_left,
    exists_eq_left]

theorem returns_external_bind {f : X → Option (α × X)} {k : α → ContractM ε S E X β} :
    Returns (external f >>= k) s b t ↔
      ∃ a x, f s.world = some (a, x) ∧ Returns (k a) { s with world := x } b t :=
  returns_bind_iff fun _ _ => returns_external

theorem returns_readStorage_bind {k : S → ContractM ε S E X β} :
    Returns (readStorage >>= k) s b t ↔ Returns (k s.storage) s b t := by
  simp only [readStorage, returns_bind, returns_get, returns_pure, and_assoc, exists_and_left,
    exists_eq_left]

theorem returns_writeStorage {u : Unit} :
    Returns (writeStorage f : ContractM ε S E X Unit) s u t ↔
      t = { s with storage := f s.storage } := returns_modify

theorem returns_emit {u : Unit} :
    Returns (emit ev : ContractM ε S E X Unit) s u t ↔ t = { s with events := s.events ++ [ev] } :=
  returns_modify

theorem returns_writeStorage_bind {k : Unit → ContractM ε S E X β} :
    Returns (writeStorage f >>= k) s b t ↔
      Returns (k ()) { s with storage := f s.storage } b t := by
  simp only [returns_bind, returns_writeStorage, exists_eq_left, exists_unit]

theorem returns_emit_bind {k : Unit → ContractM ε S E X β} :
    Returns (emit ev >>= k) s b t ↔ Returns (k ()) { s with events := s.events ++ [ev] } b t := by
  simp only [returns_bind, returns_emit, exists_eq_left, exists_unit]

end Returns

/-! ## Errors that a call does not stop with -/

section Avoids

variable {s : ContractState S E X} {B : Panic ε → Prop}

theorem avoids_external_bind {f : X → Option (α × X)} {k : α → ContractM ε S E X β} :
    Avoids (external f >>= k) s B ↔ (f s.world = none → ¬ B .callReverted) ∧
        ∀ a x, f s.world = some (a, x) → Avoids (k a) { s with world := x } B := by
  rw [avoids_bind]
  refine and_congr ?_ ?_
  · exact ⟨fun h hf => h _ (fails_external.mpr ⟨hf, rfl⟩), fun h e he => by
      obtain ⟨hf, rfl⟩ := fails_external.mp he
      exact h hf⟩
  · refine ⟨fun h a x hf => h a _ (returns_external.mpr ⟨x, hf, rfl⟩), ?_⟩
    intro h a u hret
    obtain ⟨x, hf, rfl⟩ := returns_external.mp hret
    exact h a x hf

theorem avoids_readStorage_bind {k : S → ContractM ε S E X β} :
    Avoids (readStorage >>= k) s B ↔ Avoids (k s.storage) s B := by
  unfold Avoids
  rw [readStorage]
  simp only [fails_bind, returns_bind, returns_get, not_fails_get, returns_pure, not_fails_pure,
    and_assoc, exists_and_left, exists_eq_left, false_or, or_false, and_false, exists_false]

theorem avoids_writeStorage : Avoids (writeStorage f : ContractM ε S E X Unit) s B :=
  fun _ h => absurd h not_fails_modify

theorem avoids_writeStorage_bind {k : Unit → ContractM ε S E X β} :
    Avoids (writeStorage f >>= k) s B ↔ Avoids (k ()) { s with storage := f s.storage } B := by
  rw [avoids_bind]
  refine ⟨fun h => h.2 () _ (returns_writeStorage.mpr rfl), fun h => ⟨avoids_writeStorage, ?_⟩⟩
  rintro _ _ hret
  rw [returns_writeStorage.mp hret]
  exact h

theorem avoids_emit : Avoids (emit ev : ContractM ε S E X Unit) s B :=
  fun _ h => absurd h not_fails_modify

theorem avoids_emit_bind {k : Unit → ContractM ε S E X β} :
    Avoids (emit ev >>= k) s B ↔ Avoids (k ()) { s with events := s.events ++ [ev] } B := by
  rw [avoids_bind]
  refine ⟨fun h => h.2 () _ (returns_emit.mpr rfl), fun h => ⟨avoids_emit, ?_⟩⟩
  rintro _ _ hret
  rw [returns_emit.mp hret]
  exact h

end Avoids

end App20.Starknet
