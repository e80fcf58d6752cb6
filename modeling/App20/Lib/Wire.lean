import App20.Lib.Exec

/-!
# Prefix codes and their readers

Values are written to a flat list of words one after another, with nothing between them. A
`PrefixCode` can be written so: the word that a value starts with fixes where it ends. Lists
are written behind their length.

A `Reader` takes words from the front of the input and keeps the rest as its state.
`returns_foldlM_reads` lifts what one iteration of a reading loop does to the whole loop.
-/

namespace App20.Lib

variable {α β : Type}

/-! ## Prefix codes -/

/-- Two encodings with continuations agree only when the values and the continuations do. -/
def PrefixCode (encode : α → List β) : Prop :=
  ∀ ⦃a b s t⦄, encode a ++ s = encode b ++ t → a = b ∧ s = t

theorem PrefixCode.injective {encode : α → List β} (h : PrefixCode encode) :
    Function.Injective encode := by
  intro a b hab
  exact (h (congrArg (· ++ []) hab)).1

theorem prefixCode_singleton : PrefixCode (fun b : β => [b]) := by
  intro a b s t h
  simpa using h

/-- Lists of the same length are read off their encodings in one way. -/
theorem PrefixCode.flatMap {encode : α → List β} (h : PrefixCode encode) {as bs : List α}
    {s t : List β} (hlen : as.length = bs.length)
    (heq : as.flatMap encode ++ s = bs.flatMap encode ++ t) : as = bs ∧ s = t := by
  induction as generalizing bs with
  | nil =>
    cases bs with
    | nil => exact ⟨rfl, heq⟩
    | cons b bs => cases hlen
  | cons a as ih =>
    cases bs with
    | nil => cases hlen
    | cons b bs =>
      simp only [List.flatMap_cons, List.append_assoc] at heq
      obtain ⟨rfl, hrest⟩ := h heq
      obtain ⟨rfl, rfl⟩ := ih (Nat.succ.inj hlen) hrest
      exact ⟨rfl, rfl⟩

/-- A list behind its length, where `len` writes the length. -/
def encodeList (len : Nat → β) (encode : α → List β) (as : List α) : List β :=
  len as.length :: as.flatMap encode

/-- Lists whose lengths are written faithfully are read in one way. -/
theorem PrefixCode.encodeList {encode : α → List β} (h : PrefixCode encode) {len : Nat → β}
    {bound : Nat} (hlen : ∀ m n, m < bound → n < bound → len m = len n → m = n) :
    PrefixCode fun as : {as : List α // as.length < bound} => Lib.encodeList len encode as.val := by
  intro as bs s t heq
  unfold Lib.encodeList at heq
  simp only [List.cons_append, List.cons.injEq] at heq
  obtain ⟨hval, hrest⟩ := h.flatMap (hlen _ _ as.property bs.property heq.1) heq.2
  exact ⟨Subtype.ext hval, hrest⟩

/-! ## Readers -/

/-- Programs that take words from the front of an input. -/
abbrev Reader (ε β : Type) := Exec ε (List β)

namespace Reader

open Exec

variable {ε γ : Type}

/-- The next word of the input, or the error when there is none. -/
def take (e : ε) : Reader ε β β := do
  match ← get with
  | [] => throw e
  | b :: rest =>
    set rest
    return b

def skip (e : ε) : Nat → Reader ε β Unit
  | 0 => pure ()
  | n + 1 => do
    let _ ← take e
    skip e n

theorem returns_take {e : ε} {data rest : List β} {b : β} :
    Returns (take e) data b rest ↔ data = b :: rest := by
  cases data with
  | nil =>
    constructor <;>
    · intro h
      cases h
  | cons c cs =>
    constructor <;>
    · intro h
      cases h
      rfl

theorem returns_take_bind {e : ε} {f : β → Reader ε β γ} {data rest : List β} {c : γ} :
    Returns (take e >>= f) data c rest ↔ ∃ b tail, data = b :: tail ∧ Returns (f b) tail c rest := by
  simp only [returns_bind, returns_take]

theorem returns_take_cons_bind {e : ε} {f : β → Reader ε β γ} {b : β} {tail rest : List β} {c : γ} :
    Returns (take e >>= f) (b :: tail) c rest ↔ Returns (f b) tail c rest := Iff.rfl

theorem returns_skip_zero_bind {e : ε} {f : Unit → Reader ε β γ} {data rest : List β} {c : γ} :
    Returns (skip e 0 >>= f) data c rest ↔ Returns (f ()) data c rest := Iff.rfl

theorem returns_skip_succ_bind {e : ε} {n : Nat} {f : Unit → Reader ε β γ} {data rest : List β}
    {c : γ} :
    Returns (skip e (n + 1) >>= f) data c rest ↔
      ∃ b tail, data = b :: tail ∧ Returns (skip e n >>= f) tail c rest := by
  rw [skip, bind_assoc, returns_take_bind]

/-! ## Reading loops -/

section Loops

variable {τ ι : Type}

/-- The values that a loop over `is` read, when each iteration relates the accumulators before
and after it by `step`. -/
def Reads (step : τ → ι → α → τ → Prop) : τ → List ι → List α → τ → Prop
  | p, [], as, q => as = [] ∧ q = p
  | p, i :: is, as, q => ∃ a rest r, as = a :: rest ∧ step p i a r ∧ Reads step r is rest q

/-- A loop whose iterations read one value each reads the values of its input in order. -/
theorem returns_foldlM_reads {f : τ → ι → Reader ε β τ} {encode : α → List β}
    {step : τ → ι → α → τ → Prop} (h : ∀ p i data q rest, Returns (f p i) data q rest ↔
      ∃ a, data = encode a ++ rest ∧ step p i a q) {is : List ι} {p q : τ} {data rest : List β} :
    Returns (List.foldlM f p is) data q rest ↔
      ∃ as, data = as.flatMap encode ++ rest ∧ Reads step p is as q := by
  induction is generalizing p data with
  | nil =>
    rw [returns_foldlM_nil]
    constructor
    · rintro ⟨rfl, rfl⟩
      exact ⟨[], rfl, rfl, rfl⟩
    · rintro ⟨_, rfl, rfl, rfl⟩
      exact ⟨rfl, rfl⟩
  | cons i is ih =>
    rw [returns_foldlM_cons]
    constructor
    · rintro ⟨r, mid, hone, hrest⟩
      obtain ⟨a, rfl, hstep⟩ := (h p i data r mid).mp hone
      obtain ⟨as, rfl, hreads⟩ := ih.mp hrest
      refine ⟨a :: as, ?_, a, as, r, rfl, hstep, hreads⟩
      rw [List.flatMap_cons, List.append_assoc]
    · rintro ⟨_, rfl, a, as, r, rfl, hstep, hreads⟩
      rw [List.flatMap_cons, List.append_assoc]
      exact ⟨r, _, (h _ _ _ _ _).mpr ⟨a, rfl, hstep⟩, ih.mpr ⟨as, rfl, hreads⟩⟩

end Loops

end Reader

end App20.Lib
