import Mathlib.Logic.Relation
import Mathlib.Tactic.Common

/-!
# Sections under a lock

A section is a program that makes one call after the other and is alone in doing so: it holds a
lock. A call returns, or it stops the section: by an error that nothing catches, or because the
process ends. The lock of a process that ended stays until somebody removes it.

* `Section.Upholds`: an invariant holds wherever the section may stop.
* `reachable_invariant`: it holds in every state that runs of such sections reach.
-/

namespace App20.Lib

variable {C : Type} {R : C → Type} {σ α β : Type}

/-! ## Programs -/

/-- A program over the calls `C`, whose results are `R`. -/
inductive Section (C : Type) (R : C → Type) (α : Type) where
  | ret (a : α)
  | throw (e : String)
  | call (c : C) (k : R c → Section C R α)

namespace Section

protected def bind : Section C R α → (α → Section C R β) → Section C R β
  | .ret a, f => f a
  | .throw e, _ => .throw e
  | .call c k, f => .call c fun r => (k r).bind f

instance : Monad (Section C R) where
  pure := .ret
  bind := Section.bind

def request (c : C) : Section C R (R c) := .call c .ret

def ofExcept : Except String α → Section C R α
  | .ok a => .ret a
  | .error e => .throw e

/-- `if (c) throw new Error(e)` -/
def throwIf (c : Prop) [Decidable c] (e : String) : Section C R Unit :=
  if c then .throw e else .ret ()

/-- The section whose result nobody looks at. -/
def forget (p : Section C R α) : Section C R Unit := p >>= fun _ => pure ()

end Section

/-! ## What calls do -/

/-- What a call does to the world: when it returns, and when it is the last one. -/
structure Behaviour (C : Type) (R : C → Type) (σ : Type) where
  returns : σ → (c : C) → R c → σ → Prop
  stops : σ → C → σ → Prop

namespace Section

/-- Wherever the section stops, `I` holds; where it returns, so does `post`. -/
def Upholds (B : Behaviour C R σ) (I : σ → Prop) (post : α → σ → Prop) : Section C R α → σ → Prop
  | .ret a, s => I s ∧ post a s
  | .throw _, s => I s
  | .call c k, s => I s ∧ (∀ s', B.stops s c s' → I s') ∧
      ∀ r s', B.returns s c r s' → (k r).Upholds B I post s'

section Rules

variable {B : Behaviour C R σ} {I : σ → Prop} {post : α → σ → Prop} {after : β → σ → Prop} {s : σ}

theorem Upholds.invariant {p : Section C R α} (h : p.Upholds B I post s) : I s := by
  cases p with
  | ret a | call c k => exact h.1
  | throw e => exact h

theorem upholds_bind {p : Section C R α} {f : α → Section C R β} :
    (p >>= f).Upholds B I after s ↔ p.Upholds B I (fun a => (f a).Upholds B I after) s := by
  induction p generalizing s with
  | ret a => exact ⟨fun h => ⟨h.invariant, h⟩, fun h => h.2⟩
  | throw e => exact Iff.rfl
  | call c k ih =>
    refine and_congr_right fun _ => and_congr_right fun _ => ?_
    exact forall_congr' fun r => forall_congr' fun s' => imp_congr_right fun _ => ih r

theorem Upholds.mono {p : Section C R α} {post' : α → σ → Prop}
    (hpost : ∀ a s, I s → post a s → post' a s) (h : p.Upholds B I post s) :
    p.Upholds B I post' s := by
  induction p generalizing s with
  | ret a => exact ⟨h.1, hpost a s h.1 h.2⟩
  | throw e => exact h
  | call c k ih => exact ⟨h.1, h.2.1, fun r s' hr => ih r (h.2.2 r s' hr)⟩

theorem upholds_ofExcept {x : Except String α} (hI : I s) (h : ∀ a, x = .ok a → post a s) :
    (ofExcept x : Section C R α).Upholds B I post s := by
  cases x with
  | ok a => exact ⟨hI, h a rfl⟩
  | error e => exact hI

theorem upholds_throwIf {c : Prop} [Decidable c] {e : String} {post : Unit → σ → Prop} (hI : I s)
    (h : ¬ c → post () s) : (throwIf c e : Section C R Unit).Upholds B I post s := by
  unfold throwIf
  split
  · exact hI
  · exact ⟨hI, h ‹_›⟩

end Rules

/-- The section makes no call but those of `A`. -/
def Within (A : C → Prop) : Section C R α → Prop
  | .ret _ => True
  | .throw _ => True
  | .call c k => A c ∧ ∀ r, (k r).Within A

section Within

variable {A : C → Prop}

theorem within_bind {p : Section C R α} {f : α → Section C R β} (hp : p.Within A)
    (hf : ∀ a, (f a).Within A) : (p >>= f).Within A := by
  induction p with
  | ret a => exact hf a
  | throw e => exact trivial
  | call c k ih => exact ⟨hp.1, fun r => ih r (hp.2 r)⟩

theorem within_request {c : C} (h : A c) : (request c : Section C R (R c)).Within A :=
  ⟨h, fun _ => trivial⟩

theorem within_ofExcept {x : Except String α} : (ofExcept x : Section C R α).Within A := by
  cases x <;> exact trivial

theorem within_throwIf {c : Prop} [Decidable c] {e : String} :
    (throwIf c e : Section C R Unit).Within A := by
  unfold throwIf
  split <;> exact trivial

/-- Calls that leave the world leave it in whatever order they are made. -/
theorem Within.upholds {B : Behaviour C R σ} {I : σ → Prop} {s : σ}
    (hreturns : ∀ c r s', A c → B.returns s c r s' → s' = s)
    (hstops : ∀ c s', A c → B.stops s c s' → s' = s) (hI : I s) {p : Section C R α}
    (h : p.Within A) : p.Upholds B I (fun _ s' => s' = s) s := by
  induction p with
  | ret a => exact ⟨hI, rfl⟩
  | throw e => exact hI
  | call c k ih =>
    refine ⟨hI, fun s' hs => ?_, fun r s' hr => ?_⟩
    · rw [hstops c s' h.1 hs]
      exact hI
    · rw [hreturns c r s' h.1 hr]
      exact ih r (h.2 r)

end Within

end Section

/-! ## Runs -/

/-- Who holds the lock. The holder of a stale one has ended. -/
inductive Lock (C : Type) (R : C → Type) where
  | free
  | held (p : Section C R Unit)
  | stale

structure Site (C : Type) (R : C → Type) (σ : Type) where
  world : σ
  lock : Lock C R

/-- The steps of the section that holds the lock, and of those who take it and remove it. A section
that finds the lock taken does nothing. -/
inductive Site.Step (B : Behaviour C R σ) (starts : Section C R Unit → Prop) :
    Site C R σ → Site C R σ → Prop
  | takes (w : σ) (p : Section C R Unit) : starts p → Step B starts ⟨w, .free⟩ ⟨w, .held p⟩
  | returns (w w' : σ) (c : C) (k : R c → Section C R Unit) (r : R c) :
    B.returns w c r w' → Step B starts ⟨w, .held (.call c k)⟩ ⟨w', .held (k r)⟩
  | fails (w w' : σ) (c : C) (k : R c → Section C R Unit) (e : String) :
    B.stops w c w' → Step B starts ⟨w, .held (.call c k)⟩ ⟨w', .held (.throw e)⟩
  | crashes (w w' : σ) (c : C) (k : R c → Section C R Unit) :
    B.stops w c w' → Step B starts ⟨w, .held (.call c k)⟩ ⟨w', .stale⟩
  | dies (w : σ) (p : Section C R Unit) : Step B starts ⟨w, .held p⟩ ⟨w, .stale⟩
  | finishes (w : σ) (u : Unit) : Step B starts ⟨w, .held (.ret u)⟩ ⟨w, .free⟩
  | rejects (w : σ) (e : String) : Step B starts ⟨w, .held (.throw e)⟩ ⟨w, .free⟩
  | removes (w : σ) : Step B starts ⟨w, .stale⟩ ⟨w, .free⟩

/-- The invariant, and that the section that runs upholds it. -/
def Site.Sound (B : Behaviour C R σ) (I : σ → Prop) (s : Site C R σ) : Prop :=
  I s.world ∧ ∀ p, s.lock = .held p → p.Upholds B I (fun _ _ => True) s.world

section

variable {B : Behaviour C R σ} {starts : Section C R Unit → Prop} {I : σ → Prop}
  (hstarts : ∀ p, starts p → ∀ w, I w → p.Upholds B I (fun _ _ => True) w)

include hstarts

theorem Site.Sound.step {s t : Site C R σ} (h : s.Sound B I) (hstep : Site.Step B starts s t) :
    t.Sound B I := by
  obtain ⟨hI, hheld⟩ := h
  have hfree : ∀ {w : σ} {l : Lock C R}, I w → (∀ p, l ≠ .held p) →
      (⟨w, l⟩ : Site C R σ).Sound B I := fun hw hl => ⟨hw, fun p hp => absurd hp (hl p)⟩
  cases hstep with
  | takes w p hp =>
    refine ⟨hI, fun q hq => ?_⟩
    cases hq
    exact hstarts p hp w hI
  | returns w w' c k r hr =>
    have hnext := (hheld _ rfl).2.2 r w' hr
    refine ⟨hnext.invariant, fun q hq => ?_⟩
    cases hq
    exact hnext
  | fails w w' c k e hs =>
    have hlast := (hheld _ rfl).2.1 w' hs
    refine ⟨hlast, fun q hq => ?_⟩
    cases hq
    exact hlast
  | crashes w w' c k hs => exact hfree ((hheld _ rfl).2.1 w' hs) (fun _ => nofun)
  | dies | finishes | rejects | removes => exact hfree hI (fun _ => nofun)

theorem reachable_invariant {w : σ} (hw : I w) {s : Site C R σ}
    (h : Relation.ReflTransGen (Site.Step B starts) ⟨w, .free⟩ s) : I s.world := by
  have hsound : s.Sound B I := by
    induction h with
    | refl => exact ⟨hw, fun p hp => nomatch hp⟩
    | tail _ hstep ih => exact ih.step hstarts hstep
  exact hsound.1

end

end App20.Lib
