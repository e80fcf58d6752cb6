import App20.Lib.Exec

/-!
# A journal of snapshots

A store that keeps its state in memory and appends a snapshot of it to a journal with every
transaction. A transaction reads what was stored, changes a draft of it and is there as a whole
or not at all. When an append fails, it is not known whether the snapshot is in the journal; the
store then refuses every transaction until the journal is opened again.

`clone` is the draft of a state, `write` the form in which a state stands in the journal, and
`read` what comes of that form.
-/

namespace App20.Lib

structure Journal (σ : Type) where
  memory : σ
  durable : σ
  failed : Bool

/-- How an append goes: done, or failed before or after the snapshot was in the journal. -/
inductive Append where
  | done | lost | kept

namespace Journal

open Exec

variable {ε σ α : Type} (clone write read : σ → Except ε σ)

/-- The draft that a transaction leaves, with the form of it that is appended; `none` is an error
of the store itself. -/
def attempt (m : Exec ε σ α) (j : Journal σ) : Except (Option ε) (α × σ × σ) :=
  if j.failed then .error none
  else
    match clone j.memory with
    | .error _ => .error none
    | .ok draft =>
      match m.run draft with
      | .error e => .error (some e)
      | .ok (a, next) =>
        match write next with
        | .error _ => .error none
        | .ok written => .ok (a, next, written)

/-- The errors of a store that cannot read or write its own state make it fail. -/
def afterError (j : Journal σ) : Option ε → Journal σ
  | some _ => j
  | none => { j with failed := true }

/-- A transaction: what its caller is told, and the journal after it. -/
def transact (m : Exec ε σ α) (append : Append) (j : Journal σ) : Except (Option ε) α × Journal σ :=
  match j.attempt clone write m with
  | .error e => (.error e, j.afterError e)
  | .ok (a, next, written) =>
    match append with
    | .done => (.ok a, ⟨next, written, false⟩)
    | .lost => (.error none, { j with failed := true })
    | .kept => (.error none, ⟨j.memory, written, true⟩)

/-- The journal is opened again after a stop; a journal that cannot be read stays closed. -/
def reopen (j : Journal σ) : Journal σ :=
  match read j.durable with
  | .ok s => ⟨s, j.durable, false⟩
  | .error _ => { j with failed := true }

variable {clone write read} {m : Exec ε σ α} {j : Journal σ} {append : Append}

theorem attempt_ok {a : α} {next written : σ}
    (h : j.attempt clone write m = .ok (a, next, written)) :
    j.failed = false ∧ ∃ draft, clone j.memory = .ok draft ∧
      Returns m draft a next ∧ write next = .ok written := by
  unfold attempt at h
  split at h
  · cases h
  · rename_i hfailed
    split at h
    · cases h
    · rename_i draft hdraft
      split at h
      · cases h
      · rename_i a' next' hrun
        split at h
        · cases h
        · rename_i written' hwritten
          cases h
          exact ⟨Bool.eq_false_iff.mpr hfailed, draft, hdraft, hrun, hwritten⟩

/-- What a transaction that is told to be done has done. -/
theorem transact_ok {a : α} {j' : Journal σ} (h : j.transact clone write m append = (.ok a, j')) :
    ∃ next written, j.attempt clone write m = .ok (a, next, written) ∧
      j' = ⟨next, written, false⟩ := by
  unfold transact at h
  cases hattempt : j.attempt clone write m with
  | error e =>
    rw [hattempt] at h
    cases h
  | ok p =>
    obtain ⟨b, next, written⟩ := p
    rw [hattempt] at h
    cases append with
    | done =>
      cases h
      exact ⟨next, written, rfl, rfl⟩
    | lost | kept => cases h

/-- A transaction that is done leaves what another program leaves that ends in the same states. -/
theorem transact_map {β : Type} {m' : Exec ε σ β} {a : α} {b : β} {j' : Journal σ}
    (h : j.transact clone write m append = (.ok a, j'))
    (hm : ∀ s t, Returns m s a t → Returns m' s b t) :
    j.transact clone write m' append = (.ok b, j') := by
  obtain ⟨next, written, hattempt, rfl⟩ := transact_ok h
  obtain ⟨hopened, draft, hdraft, hreturns, hwritten⟩ := attempt_ok hattempt
  have hreturns' : m'.run draft = .ok (b, next) := hm draft next hreturns
  have hattempt' : j.attempt clone write m' = .ok (b, next, written) := by
    simp only [attempt, hopened, hdraft, hreturns', hwritten, Bool.false_eq_true, if_false]
  unfold transact at h ⊢
  rw [hattempt] at h
  rw [hattempt']
  cases append with
  | done => rfl
  | lost | kept => cases h

/-- After any transaction memory and journal are as they were and its caller is told of an error,
or the draft is in the journal, and in memory as well if its caller is told that it is done. -/
theorem transact_cases (clone write : σ → Except ε σ) (m : Exec ε σ α) (append : Append)
    (j : Journal σ) :
    (∃ e j', j.transact clone write m append = (.error e, j') ∧ j'.memory = j.memory ∧
        j'.durable = j.durable ∧ (j'.failed = false → j.failed = false)) ∨
      ∃ a next written, j.attempt clone write m = .ok (a, next, written) ∧
        (j.transact clone write m append = (.ok a, ⟨next, written, false⟩) ∨
          j.transact clone write m append = (.error none, ⟨j.memory, written, true⟩)) := by
  unfold transact
  cases j.attempt clone write m with
  | error e =>
    cases e with
    | none => exact Or.inl ⟨none, _, rfl, rfl, rfl, fun h => by cases h⟩
    | some e => exact Or.inl ⟨some e, j, rfl, rfl, rfl, id⟩
  | ok p =>
    obtain ⟨a, next, written⟩ := p
    cases append with
    | done => exact Or.inr ⟨a, next, written, rfl, Or.inl rfl⟩
    | lost => exact Or.inl ⟨none, _, rfl, rfl, rfl, fun h => by cases h⟩
    | kept => exact Or.inr ⟨a, next, written, rfl, Or.inr rfl⟩

/-- A property of the state in memory and in the journal. -/
structure Holds (P : σ → Prop) (j : Journal σ) : Prop where
  memory : P j.memory
  durable : P j.durable

/-- What a draft, a transaction on it and writing it keep, the journal keeps. -/
theorem Holds.transact {P D Q : σ → Prop} (hP : Holds P j) (hPQ : ∀ s, P s → Q s)
    (hclone : ∀ s s', clone s = .ok s' → P s → D s')
    (hwrite : ∀ s s', write s = .ok s' → Q s → Q s')
    (hm : ∀ draft a next, D draft → Returns m draft a next → Q next) :
    Holds Q (j.transact clone write m append).2 := by
  rcases transact_cases clone write m append j with ⟨e, j', hj, hmemory, hdurable, -⟩ |
      ⟨a, next, written, hattempt, hj⟩
  · rw [hj]
    exact ⟨by rw [hmemory]; exact hPQ _ hP.memory, by rw [hdurable]; exact hPQ _ hP.durable⟩
  · obtain ⟨-, draft, hdraft, hreturns, hwritten⟩ := attempt_ok hattempt
    have hnext := hm draft a next (hclone _ _ hdraft hP.memory) hreturns
    have hwritten := hwrite next written hwritten hnext
    rcases hj with hj | hj
    · rw [hj]
      exact ⟨hnext, hwritten⟩
    · rw [hj]
      exact ⟨hPQ _ hP.memory, hwritten⟩

theorem Holds.reopen {P : σ → Prop} (hP : Holds P j)
    (hread : ∀ s s', read s = .ok s' → P s → P s') : Holds P (j.reopen read) := by
  unfold Journal.reopen
  cases hs : read j.durable with
  | error e => exact ⟨hP.memory, hP.durable⟩
  | ok s => exact ⟨hread _ _ hs hP.durable, hP.durable⟩

end Journal

end App20.Lib
