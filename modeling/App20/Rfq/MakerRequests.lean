import App20.Lib.Run
import App20.Lib.Table
import App20.Otc.Payments

/-!
# Saved maker requests

The rows of the quotes that a browser asked makers for, in a storage that all its tabs share. A tab
holds versions of rows that it read or wrote earlier and writes whole rows back. What is saved keeps
the settlement attempt that is stored by a rule on two statuses and a hash, which does not tell one
attempt from the next.

* `confirmed_run`: a confirmed attempt stays in every run.
* `fenced_iff`: the runs in which no attempt is lost and two are never unresolved at once.
* `fenced_not`: a run in which they are.
-/

namespace App20.Rfq

open App20.Lib App20.Domain
open App20.Otc (truthy)

/-! ## Rows -/

inductive SettlementStatus where
  | prepared
  | submitted
  | confirmed
  | reverted
deriving DecidableEq

structure SettlementAttempt where
  status : SettlementStatus
  transactionHash : Option Text
deriving DecidableEq

inductive MakerStage where
  | comparison
  | reservation
deriving DecidableEq

/-- The scope of a request, as far as the storage reads it. -/
structure MakerScope where
  chainId : Text
  book : Text
  id : Text
  taker : Text
  expiresAt : Int
deriving DecidableEq

/-- A row, as far as the storage reads it. Of the executable answer it reads that there is one. -/
structure SavedMakerRequest where
  scope : MakerScope
  comparisonId : Option Text
  stage : Option MakerStage
  settlementSecret : Option Text
  executableAnswer : Option Json
  settlementAttempt : Option SettlementAttempt

def SavedMakerRequest.id (row : SavedMakerRequest) : Text := row.scope.id

def SavedMakerRequest.attemptStatus (row : SavedMakerRequest) : Option SettlementStatus :=
  row.settlementAttempt.map (·.status)

/-- The attempt is prepared or submitted. -/
def SavedMakerRequest.Pending (row : SavedMakerRequest) : Prop :=
  row.attemptStatus = some .prepared ∨ row.attemptStatus = some .submitted

instance (row : SavedMakerRequest) : Decidable row.Pending := inferInstanceAs (Decidable (_ ∨ _))

abbrev MakerRequestStore := Table SavedMakerRequest.id

/-! ## Operations -/

/-- Whether a save keeps the attempt that is stored. -/
def preserveAttempt (current value : SavedMakerRequest) : Bool :=
  match current.settlementAttempt with
  | none => false
  | some attempt =>
    value.settlementAttempt.isNone || decide (attempt.status = .confirmed) ||
      (truthy attempt.transactionHash && decide (value.attemptStatus = some .prepared))

def savedRow (current value : SavedMakerRequest) : SavedMakerRequest :=
  if preserveAttempt current value = true then
    { value with settlementAttempt := current.settlementAttempt }
  else value

def saveMakerRequest (store : MakerRequestStore) (value : SavedMakerRequest) : MakerRequestStore :=
  match store.get? value.scope.id with
  | some current => store.put (savedRow current value)
  | none => store.put value

def settlementRefusal : String :=
  "This quote already has a settlement attempt, or recovery storage is unavailable. Check its status before retrying."

def beginMakerSettlement (store : MakerRequestStore) (id : Text) :
    Except String (MakerRequestStore × SavedMakerRequest) :=
  match store.get? id with
  | none => .error settlementRefusal
  | some row =>
    if row.executableAnswer = none ∨ truthy row.settlementSecret = false ∨
        (row.settlementAttempt.isSome = true ∧ row.attemptStatus ≠ some .reverted) then
      .error settlementRefusal
    else
      let updated := { row with settlementAttempt := some ⟨.prepared, none⟩ }
      .ok (store.put updated, updated)

def batchRefusal : String :=
  "This comparison already has a reservation attempt, or storage is unavailable. Check its records before retrying."

def Occupies (reserveComparison : Option Text) (first : SavedMakerRequest) (now : Int)
    (row : SavedMakerRequest) : Prop :=
  (row.comparisonId = reserveComparison ∧ row.stage = some .reservation) ∨
    (row.scope.taker = first.scope.taker ∧ row.scope.book = first.scope.book ∧
      row.scope.chainId = first.scope.chainId ∧
      (row.Pending ∨ (row.stage = some .reservation ∧ now < row.scope.expiresAt ∧
        row.attemptStatus ≠ some .confirmed)))

instance (reserveComparison : Option Text) (first : SavedMakerRequest) (now : Int)
    (row : SavedMakerRequest) : Decidable (Occupies reserveComparison first now row) :=
  inferInstanceAs (Decidable (_ ∨ _))

def addRow (store : MakerRequestStore) (row : SavedMakerRequest) :
    Except String MakerRequestStore := do
  throwIf ((store.get? row.id).isSome = true) batchRefusal
  return store.put row

def saveMakerBatch (store : MakerRequestStore) (rows : List SavedMakerRequest)
    (reserveComparison : Option Text) (now : Int) : Except String MakerRequestStore :=
  match rows with
  | [] => .error "Invalid quote request batch."
  | first :: others => do
    throwIf (5 < (first :: others).length ∨ (truthy reserveComparison = true ∧
      ((first :: others).length ≠ 1 ∨ first.comparisonId ≠ reserveComparison ∨
        first.stage ≠ some .reservation))) "Invalid quote request batch."
    throwIf (truthy reserveComparison = true ∧
      ∃ row ∈ store.entries, Occupies reserveComparison first now row) batchRefusal
    (first :: others).foldlM addRow store

/-! ## What the operations do -/

variable {rows : List SavedMakerRequest} {attempt : Nat}

section

variable {store store' : MakerRequestStore} {current value row : SavedMakerRequest} {id : Text}

theorem savedRow_id : (savedRow current value).id = value.id := by
  unfold savedRow
  split <;> rfl

theorem savedRow_attempt : (savedRow current value).settlementAttempt =
    if preserveAttempt current value = true then current.settlementAttempt
    else value.settlementAttempt := by
  unfold savedRow
  split <;> rfl

theorem savedRow_isSome (h : current.settlementAttempt.isSome = true) :
    (savedRow current value).settlementAttempt.isSome = true := by
  rw [savedRow_attempt]
  split
  · exact h
  · rename_i hnot
    obtain ⟨attempt, hattempt⟩ := Option.isSome_iff_exists.mp h
    by_contra hnone
    simp only [Option.not_isSome_iff_eq_none] at hnone
    simp [preserveAttempt, hattempt, hnone] at hnot

theorem savedRow_confirmed (h : current.attemptStatus = some .confirmed) :
    (savedRow current value).settlementAttempt = current.settlementAttempt := by
  obtain ⟨attempt, hattempt, hstatus⟩ := Option.map_eq_some_iff.mp h
  rw [savedRow_attempt, if_pos]
  simp [preserveAttempt, hattempt, hstatus]

theorem savedRow_pending_iff (h : current.Pending) :
    (savedRow current value).settlementAttempt = current.settlementAttempt ↔
      value.settlementAttempt = none ∨ value.settlementAttempt = current.settlementAttempt ∨
        (value.attemptStatus = some .prepared ∧
          truthy (current.settlementAttempt.bind (·.transactionHash)) = true) := by
  have hstatus : current.attemptStatus ≠ some .confirmed := by
    rcases h with h | h <;> rw [h] <;> decide
  have hsome : current.settlementAttempt.isSome = true := by
    unfold SavedMakerRequest.Pending SavedMakerRequest.attemptStatus at h
    cases hattempt : current.settlementAttempt <;> simp_all
  obtain ⟨attempt, hattempt⟩ := Option.isSome_iff_exists.mp hsome
  have hnot : attempt.status ≠ .confirmed := by
    intro heq
    exact hstatus (by rw [SavedMakerRequest.attemptStatus, hattempt, Option.map_some, heq])
  rw [savedRow_attempt, hattempt]
  simp only [preserveAttempt, hattempt, hnot, Option.bind_some, decide_false, Bool.or_false,
    Bool.or_eq_true, Bool.and_eq_true, Option.isNone_iff_eq_none, decide_eq_true_eq]
  split
  · rename_i hkept
    exact iff_of_true rfl (hkept.imp id fun hkept => Or.inr hkept.symm)
  · rename_i hkept
    push Not at hkept
    constructor
    · exact fun heq => Or.inr (Or.inl heq)
    · rintro (hnone | heq | ⟨hprepared, hhash⟩)
      · exact absurd hnone hkept.1
      · exact heq
      · exact absurd hprepared (hkept.2 hhash)

theorem beginMakerSettlement_ok {updated : SavedMakerRequest}
    (h : beginMakerSettlement store id = .ok (store', updated)) : ∃ row, store.get? id = some row ∧
      (row.settlementAttempt = none ∨ row.attemptStatus = some .reverted) ∧
      updated = { row with settlementAttempt := some ⟨.prepared, none⟩ } ∧
      store' = store.put updated := by
  unfold beginMakerSettlement at h
  split at h
  · cases h
  · rename_i row hrow
    split at h
    · cases h
    · rename_i hnot
      cases h
      refine ⟨row, hrow, ?_, rfl, rfl⟩
      push Not at hnot
      cases hattempt : row.settlementAttempt with
      | none => exact Or.inl rfl
      | some attempt => exact Or.inr (hnot.2.2 (by rw [hattempt]; rfl))

theorem addRow_ok (h : addRow store row = .ok store') :
    store'.entries = store.entries ++ [row] := by
  simp only [addRow, bind_ok, throwIf_ok, pure_ok] at h
  obtain ⟨_, hfree, rfl⟩ := h
  exact Table.entries_put_of_new (Option.not_isSome_iff_eq_none.mp hfree)

theorem saveMakerBatch_ok {reserveComparison : Option Text} {now : Int}
    (h : saveMakerBatch store rows reserveComparison now = .ok store') :
    store'.entries = store.entries ++ rows := by
  unfold saveMakerBatch at h
  split at h
  · cases h
  · simp only [bind_ok] at h
    obtain ⟨_, -, _, -, h⟩ := h
    exact Table.entries_foldlM (p := fun store => store) (fun _ _ _ => addRow_ok) h

end

/-! ## MakerTabs -/

/-- A row as it was stored at some time, with the number of attempts that were begun for it until
then and the number of the one that its attempt is of. -/
structure RowVersion where
  row : SavedMakerRequest
  begun : Nat
  attemptOf : Nat

/-- The storage, and every version of a row that was ever stored, the newest first. -/
structure MakerTabs where
  store : MakerRequestStore
  history : List RowVersion

namespace MakerTabs

def empty : MakerTabs := ⟨.empty, []⟩

def current (s : MakerTabs) (id : Text) : Option RowVersion :=
  s.history.find? fun v => v.row.id = id

/-- What a tab does: it saves a row that stems from a version it holds, begins a settlement, or
stores the rows of a request. -/
inductive Action where
  | save (held : Nat) (value : SavedMakerRequest)
  | begin (id : Text)
  | batch (rows : List SavedMakerRequest) (reserveComparison : Option Text) (now : Int)

/-- The version that a save leaves: where it changes the attempt, the attempt is the one of the
version that the tab held. -/
def saved (snapshot current : RowVersion) (value : SavedMakerRequest) : RowVersion :=
  let row := savedRow current.row value
  ⟨row, current.begun, if row.settlementAttempt = current.row.settlementAttempt then current.attemptOf
    else snapshot.attemptOf⟩

def save (s : MakerTabs) (held : Nat) (value : SavedMakerRequest) :
    Option (RowVersion × RowVersion) := do
  let snapshot ← s.history[held]?
  let current ← s.current value.id
  if snapshot.row.id = value.id then some (snapshot, current) else none

def step (s : MakerTabs) : Action → MakerTabs
  | .save held value =>
    match s.save held value with
    | some (snapshot, current) =>
      ⟨saveMakerRequest s.store value, saved snapshot current value :: s.history⟩
    | none => s
  | .begin id =>
    match beginMakerSettlement s.store id, s.current id with
    | .ok (store, row), some current =>
      ⟨store, ⟨row, current.begun + 1, current.begun + 1⟩ :: s.history⟩
    | _, _ => s
  | .batch rows reserveComparison now =>
    match saveMakerBatch s.store rows reserveComparison now with
    | .ok store => ⟨store, rows.map (fun row => ⟨row, 0, 0⟩) ++ s.history⟩
    | .error _ => s

/-! ## Fences -/

def Recorded (s : MakerTabs) (id : Text) (attempt : Nat) (status : SettlementStatus) : Prop :=
  ∃ v ∈ s.history, v.row.id = id ∧ v.attemptOf = attempt ∧ attempt ≤ v.begun ∧
    v.row.attemptStatus = some status

/-- An attempt that was begun and of which no outcome was recorded. -/
def Unresolved (s : MakerTabs) (id : Text) (attempt : Nat) : Prop :=
  ∃ current, s.current id = some current ∧ 0 < attempt ∧ attempt ≤ current.begun ∧
    ¬ s.Recorded id attempt .reverted ∧ ¬ s.Recorded id attempt .confirmed

/-- A save from a version that was stored before the attempt began that is now prepared or
submitted leaves the attempt as it is. -/
def Keeps (s : MakerTabs) : Action → Prop
  | .save held value => ∀ snapshot current, s.save held value = some (snapshot, current) →
      snapshot.begun < current.begun → current.row.Pending →
      (savedRow current.row value).settlementAttempt = current.row.settlementAttempt
  | _ => True

def Waits (s : MakerTabs) : Action → Prop
  | .begin id => ∀ begun current, beginMakerSettlement s.store id = .ok begun →
      s.current id = some current → ∀ attempt, 0 < attempt → attempt ≤ current.begun →
        s.Recorded id attempt .reverted
  | _ => True

/-- What a stale save carries beside a pending attempt: none, one that is prepared where the stored
one has a hash, or the same. -/
def Fresh (s : MakerTabs) : Action → Prop
  | .save held value => ∀ snapshot current, s.save held value = some (snapshot, current) →
      snapshot.begun < current.begun → current.row.Pending →
      value.settlementAttempt = none ∨ value.settlementAttempt = current.row.settlementAttempt ∨
        (value.attemptStatus = some .prepared ∧
          truthy (current.row.settlementAttempt.bind (·.transactionHash)) = true)
  | _ => True

/-- Over a run, no attempt that is pending is overwritten from before it began, no confirmed one is
lost, settlements begin when all attempts before were reverted, and two attempts of a request are
never unresolved at once. -/
structure Fenced (actions : List Action) : Prop where
  keeps : Along step Keeps empty actions
  confirmed : ∀ before after id current, actions = before ++ after →
    (run step empty before).current id = some current →
    current.row.attemptStatus = some .confirmed → ∃ later,
      (run step empty actions).current id = some later ∧
        later.row.settlementAttempt = current.row.settlementAttempt
  waits : Along step Waits empty actions
  one : ∀ before, before <+: actions → ∀ id attempt attempt',
    (run step empty before).Unresolved id attempt →
    (run step empty before).Unresolved id attempt' → attempt = attempt'

/-! ## What every run keeps -/

variable {s : MakerTabs} {snapshot current : RowVersion} {value : SavedMakerRequest} {id : Text}
  {held : Nat} {action : Action} {actions : List Action}

theorem save_eq_some (h : s.save held value = some (snapshot, current)) :
    snapshot ∈ s.history ∧ snapshot.row.id = value.id ∧ s.current value.id = some current := by
  simp only [save, Option.bind_eq_bind, Option.bind_eq_some_iff] at h
  obtain ⟨v, hv, c, hc, h⟩ := h
  split at h
  · rename_i hid
    cases h
    exact ⟨List.mem_of_getElem? hv, hid, hc⟩
  · cases h

theorem current_mem (h : s.current id = some current) :
    current ∈ s.history ∧ current.row.id = id := by
  have hid := List.find?_some (show s.history.find? _ = some current from h)
  exact ⟨List.mem_of_find?_eq_some h, of_decide_eq_true hid⟩

theorem current_cons {store : MakerRequestStore} {v : RowVersion} :
    (⟨store, v :: s.history⟩ : MakerTabs).current id = if v.row.id = id then some v else s.current id := by
  unfold MakerTabs.current
  rw [List.find?_cons]
  by_cases h : v.row.id = id <;> simp [h]

/-- The invariant of all runs: the storage has the newest versions, no version is of an attempt that
had not begun, and an attempt once begun is there. -/
structure Kept (s : MakerTabs) : Prop where
  linked : ∀ id, s.store.get? id = (s.current id).map (·.row)
  attemptOf : ∀ v ∈ s.history, v.attemptOf ≤ v.begun
  newest : ∀ v ∈ s.history, ∀ current, s.current v.row.id = some current → v.begun ≤ current.begun
  attempt : ∀ v ∈ s.history, 0 < v.begun → v.row.settlementAttempt.isSome = true

theorem kept_empty : Kept empty :=
  ⟨fun _ => rfl, fun v hv => (by cases hv), fun v hv => (by cases hv), fun v hv => (by cases hv)⟩

theorem Kept.write (h : s.Kept) (hcurrent : s.current id = some current) {next : RowVersion}
    (hid : next.row.id = id) (hattemptOf : next.attemptOf ≤ next.begun)
    (hbegun : current.begun ≤ next.begun)
    (hattempt : 0 < next.begun → next.row.settlementAttempt.isSome = true) :
    Kept ⟨s.store.put next.row, next :: s.history⟩ where
  linked k := by
    rw [current_cons]
    by_cases hk : next.row.id = k
    · rw [if_pos hk, ← hk]
      exact Table.get?_put_self
    · rw [if_neg hk, ← h.linked k]
      exact Table.get?_put_of_ne (Ne.symm hk)
  attemptOf v hv := by
    rcases List.mem_cons.mp hv with rfl | hv
    · exact hattemptOf
    · exact h.attemptOf v hv
  newest v hv c hc := by
    rw [current_cons] at hc
    split at hc
    · rename_i heq
      cases hc
      rcases List.mem_cons.mp hv with rfl | hv
      · exact le_refl _
      · exact (h.newest v hv current (by rw [← heq, hid]; exact hcurrent)).trans hbegun
    · rename_i hne
      rcases List.mem_cons.mp hv with rfl | hv
      · exact absurd rfl hne
      · exact h.newest v hv c hc
  attempt v hv := by
    rcases List.mem_cons.mp hv with rfl | hv
    · exact hattempt
    · exact h.attempt v hv

theorem saved_id : (saved snapshot current value).row.id = value.id := savedRow_id

theorem saved_attemptOf : (saved snapshot current value).attemptOf = current.attemptOf ∨
    (saved snapshot current value).attemptOf = snapshot.attemptOf := by
  unfold saved
  dsimp only
  split
  · exact Or.inl rfl
  · exact Or.inr rfl

theorem Kept.save (h : s.Kept) (hsave : s.save held value = some (snapshot, current)) :
    Kept ⟨saveMakerRequest s.store value, saved snapshot current value :: s.history⟩ := by
  obtain ⟨hmem, hid, hcurrent⟩ := save_eq_some hsave
  have hbegun := h.newest snapshot hmem current (hid ▸ hcurrent)
  have hcurrentMem := (current_mem hcurrent).1
  have hstore : saveMakerRequest s.store value =
      s.store.put (saved snapshot current value).row := by
    unfold saveMakerRequest
    rw [show s.store.get? value.scope.id = _ from h.linked value.id, hcurrent]
    rfl
  rw [hstore]
  refine h.write hcurrent saved_id ?_ (le_refl _) fun hpos => ?_
  · rcases @saved_attemptOf snapshot current value with heq | heq
    · rw [heq]
      exact h.attemptOf current hcurrentMem
    · rw [heq]
      exact (h.attemptOf snapshot hmem).trans hbegun
  · exact savedRow_isSome (h.attempt current hcurrentMem hpos)

theorem Kept.begin {store : MakerRequestStore} {row : SavedMakerRequest} (h : s.Kept)
    (hbegin : beginMakerSettlement s.store id = .ok (store, row))
    (hcurrent : s.current id = some current) :
    Kept ⟨store, ⟨row, current.begun + 1, current.begun + 1⟩ :: s.history⟩ := by
  obtain ⟨prior, hprior, -, hrow, rfl⟩ := beginMakerSettlement_ok hbegin
  let next : RowVersion := ⟨row, current.begun + 1, current.begun + 1⟩
  have hid : next.row.id = id := by
    rw [show next.row = _ from hrow]
    exact (Table.get?_eq_some.mp hprior).2
  refine h.write hcurrent hid (le_refl _) (Nat.le_succ _) fun _ => ?_
  rw [show next.row = _ from hrow]
  rfl

theorem current_batch {store : MakerRequestStore} :
    (⟨store, rows.map (fun row => ⟨row, 0, 0⟩) ++ s.history⟩ : MakerTabs).current id =
      ((rows.find? fun row => row.id = id).map fun row => ⟨row, 0, 0⟩).or (s.current id) := by
  unfold MakerTabs.current
  rw [List.find?_append, List.find?_map]
  rfl

theorem Kept.batch {reserveComparison : Option Text} {now : Int} {store : MakerRequestStore}
    (h : s.Kept) (hbatch : saveMakerBatch s.store rows reserveComparison now = .ok store) :
    Kept ⟨store, rows.map (fun row => ⟨row, 0, 0⟩) ++ s.history⟩ := by
  have hentries := saveMakerBatch_ok hbatch
  -- A row that is added was not there before, for the storage has one row of an id.
  have hnew : ∀ row ∈ rows, s.current row.id = none := by
    intro row hrow
    have hnodup := store.nodup
    rw [hentries, List.map_append, List.nodup_append] at hnodup
    cases hcurrent : s.current row.id with
    | none => rfl
    | some current =>
      have hget := h.linked row.id
      rw [hcurrent] at hget
      obtain ⟨hmem, hid⟩ := Table.get?_eq_some.mp hget
      exact absurd hid (hnodup.2.2 _ (List.mem_map_of_mem hmem) _ (List.mem_map_of_mem hrow))
  have hold : ∀ v ∈ s.history, ∀ row ∈ rows, row.id ≠ v.row.id := by
    intro v hv row hrow heq
    have hnone := List.find?_eq_none.mp (hnew row hrow) v hv
    exact hnone (decide_eq_true heq.symm)
  refine ⟨fun id => ?_, fun v hv => ?_, fun v hv current hcurrent => ?_, fun v hv hpos => ?_⟩
  · have hget : store.get? id = (s.store.get? id).or (rows.find? fun row => row.id = id) := by
      unfold Table.get?
      rw [hentries, List.find?_append]
    rw [hget, current_batch, h.linked id]
    cases hfind : rows.find? fun row => row.id = id with
    | none => simp
    | some row =>
      have hid : row.id = id := by simpa using List.find?_some hfind
      rw [← hid, hnew row (List.mem_of_find?_eq_some hfind)]
      rfl
  · rcases List.mem_append.mp hv with hv | hv
    · obtain ⟨row, -, rfl⟩ := List.mem_map.mp hv
      exact le_refl _
    · exact h.attemptOf v hv
  · rcases List.mem_append.mp hv with hv | hv
    · obtain ⟨row, -, rfl⟩ := List.mem_map.mp hv
      exact Nat.zero_le _
    · have hnone : (rows.find? fun row => row.id = v.row.id) = none := by
        rw [List.find?_eq_none]
        intro row hrow
        simpa using hold v hv row hrow
      rw [current_batch, hnone] at hcurrent
      exact h.newest v hv current hcurrent
  · rcases List.mem_append.mp hv with hv | hv
    · obtain ⟨row, -, rfl⟩ := List.mem_map.mp hv
      exact absurd hpos (Nat.lt_irrefl 0)
    · exact h.attempt v hv hpos

theorem Kept.step (h : s.Kept) (action : Action) : (s.step action).Kept := by
  cases action with
  | save held value =>
    simp only [MakerTabs.step]
    split
    · rename_i hsave
      exact h.save hsave
    · exact h
  | begin id =>
    simp only [MakerTabs.step]
    split
    · rename_i hbegin hcurrent
      exact h.begin hbegin hcurrent
    · exact h
  | batch rows reserveComparison now =>
    simp only [MakerTabs.step]
    split
    · rename_i hbatch
      exact h.batch hbatch
    · exact h

theorem kept_run (actions : List Action) : Kept (run MakerTabs.step empty actions) :=
  run_invariant (fun _ action h => h.step action) actions kept_empty

/-! ## Confirmed attempts -/

theorem Kept.confirmed_step (h : s.Kept) (hcurrent : s.current id = some current)
    (hconfirmed : current.row.attemptStatus = some .confirmed) (action : Action) : ∃ next,
      (s.step action).current id = some next ∧
        next.row.settlementAttempt = current.row.settlementAttempt := by
  cases action with
  | save held value =>
    simp only [MakerTabs.step]
    split
    · rename_i snapshot prior hsave
      rw [current_cons, saved_id]
      split
      · rename_i hid
        obtain ⟨-, -, hprior⟩ := save_eq_some hsave
        rw [hid, hcurrent] at hprior
        cases hprior
        exact ⟨_, rfl, savedRow_confirmed hconfirmed⟩
      · exact ⟨current, hcurrent, rfl⟩
    · exact ⟨current, hcurrent, rfl⟩
  | begin other =>
    simp only [MakerTabs.step]
    split
    · rename_i store row prior hbegin hprior
      obtain ⟨row', hrow', hfree, rfl, rfl⟩ := beginMakerSettlement_ok hbegin
      have hid : row'.id = other := (Table.get?_eq_some.mp hrow').2
      rw [current_cons]
      split
      · rename_i heq
        have hsame : other = id := hid.symm.trans heq
        subst hsame
        rw [h.linked other, hcurrent] at hrow'
        cases hrow'
        rw [hconfirmed] at hfree
        rcases hfree with hnone | hreverted
        · rw [SavedMakerRequest.attemptStatus, hnone] at hconfirmed
          cases hconfirmed
        · cases hreverted
      · exact ⟨current, hcurrent, rfl⟩
    · exact ⟨current, hcurrent, rfl⟩
  | batch rows reserveComparison now =>
    have hnext := h.step (.batch rows reserveComparison now)
    simp only [MakerTabs.step] at hnext ⊢
    split
    · rename_i store hbatch
      rw [hbatch] at hnext
      have hget : store.get? id = some current.row := by
        have hmem := Table.get?_eq_some.mp ((h.linked id).trans (congrArg _ hcurrent))
        rw [Table.get?_eq_some, saveMakerBatch_ok hbatch]
        exact ⟨List.mem_append_left _ hmem.1, hmem.2⟩
      obtain ⟨next, hnext, hrow⟩ := Option.map_eq_some_iff.mp ((hnext.linked id).symm.trans hget)
      exact ⟨next, hnext, by rw [hrow]⟩
    · exact ⟨current, hcurrent, rfl⟩

theorem Kept.confirmed_run (h : s.Kept) (hcurrent : s.current id = some current)
    (hconfirmed : current.row.attemptStatus = some .confirmed) (actions : List Action) : ∃ later,
      (run MakerTabs.step s actions).current id = some later ∧
        later.row.settlementAttempt = current.row.settlementAttempt := by
  induction actions generalizing s current with
  | nil => exact ⟨current, hcurrent, rfl⟩
  | cons action actions ih =>
    obtain ⟨next, hnext, hattempt⟩ := h.confirmed_step hcurrent hconfirmed action
    have hstatus : next.row.attemptStatus = some .confirmed := by
      rw [SavedMakerRequest.attemptStatus, hattempt]
      exact hconfirmed
    obtain ⟨later, hlater, hsame⟩ := ih (h.step action) hnext hstatus
    exact ⟨later, hlater, hsame.trans hattempt⟩

/-! ## What fresh runs keep -/

/-- The invariant of fresh runs: a version is of the last attempt that had begun, or that attempt is
known as reverted, and all attempts before the last one are. -/
structure Guarded (s : MakerTabs) : Prop where
  own : ∀ v ∈ s.history, v.attemptOf = v.begun ∨ s.Recorded v.row.id v.begun .reverted
  closed : ∀ id current, s.current id = some current → ∀ attempt, 0 < attempt →
    attempt < current.begun → s.Recorded id attempt .reverted

theorem guarded_empty : Guarded empty :=
  ⟨fun v hv => (by cases hv), fun id current h => (by cases h)⟩

theorem Recorded.mono {s' : MakerTabs} {status : SettlementStatus}
    (h : s.Recorded id attempt status) (hsub : ∀ v ∈ s.history, v ∈ s'.history) :
    s'.Recorded id attempt status := by
  obtain ⟨v, hv, hrest⟩ := h
  exact ⟨v, hsub v hv, hrest⟩

section

variable (h : s.Guarded)

include h

theorem Guarded.reverted (hcurrent : s.current id = some current)
    (hreverted : current.row.attemptStatus = some .reverted) (hpos : 0 < attempt)
    (hle : attempt ≤ current.begun) : s.Recorded id attempt .reverted := by
  obtain ⟨hmem, hid⟩ := current_mem hcurrent
  rcases Nat.lt_or_eq_of_le hle with hlt | heq
  · exact h.closed id current hcurrent attempt hpos hlt
  · rcases h.own current hmem with hown | hrecorded
    · exact ⟨current, hmem, hid, by omega, hle, hreverted⟩
    · rw [heq, ← hid]
      exact hrecorded

theorem Guarded.begins (hkept : s.Kept) (hcurrent : s.current id = some current)
    (hfree : current.row.settlementAttempt = none ∨ current.row.attemptStatus = some .reverted)
    (hpos : 0 < attempt) (hle : attempt ≤ current.begun) : s.Recorded id attempt .reverted := by
  rcases hfree with hnone | hreverted
  · have hsome := hkept.attempt current (current_mem hcurrent).1 (by omega)
    rw [hnone] at hsome
    cases hsome
  · exact h.reverted hcurrent hreverted hpos hle

/-- A save that is fresh stores an attempt that is the last one, or the last one is reverted. -/
theorem Guarded.saved_own (hkept : s.Kept) (hsave : s.save held value = some (snapshot, current))
    (hkeeps : s.Keeps (.save held value)) :
    (saved snapshot current value).attemptOf = current.begun ∨
      s.Recorded value.id current.begun .reverted := by
  obtain ⟨hmem, hid, hcurrent⟩ := save_eq_some hsave
  obtain ⟨hcurrentMem, hcurrentId⟩ := current_mem hcurrent
  have hown := h.own current hcurrentMem
  rw [hcurrentId] at hown
  by_cases hsame : (savedRow current.row value).settlementAttempt = current.row.settlementAttempt
  · have heq : (saved snapshot current value).attemptOf = current.attemptOf := by
      simp only [saved, hsame, if_true]
    rw [heq]
    exact hown
  · have heq : (saved snapshot current value).attemptOf = snapshot.attemptOf := by
      simp only [saved, hsame, if_false]
    rw [heq]
    rcases Nat.lt_or_eq_of_le (hkept.newest snapshot hmem current (hid ▸ hcurrent)) with hlt | hbegun
    · -- The snapshot is older than the last attempt, so that attempt is not pending.
      have hpending : ¬ current.row.Pending := fun hpending =>
        hsame (hkeeps snapshot current hsave hlt hpending)
      have hsome := hkept.attempt current hcurrentMem (by omega)
      obtain ⟨attempt, hattempt⟩ := Option.isSome_iff_exists.mp hsome
      have hstatus : current.row.attemptStatus = some attempt.status := by
        rw [SavedMakerRequest.attemptStatus, hattempt]
        rfl
      have hreverted : current.row.attemptStatus = some .reverted := by
        cases hcase : attempt.status with
        | prepared => exact absurd (Or.inl (hcase ▸ hstatus)) hpending
        | submitted => exact absurd (Or.inr (hcase ▸ hstatus)) hpending
        | confirmed => exact absurd (savedRow_confirmed (hcase ▸ hstatus)) hsame
        | reverted => exact hcase ▸ hstatus
      exact Or.inr (h.reverted hcurrent hreverted (by omega) (le_refl _))
    · have hsnapshot := h.own snapshot hmem
      rw [hid, hbegun] at hsnapshot
      exact hsnapshot

theorem Guarded.write {store : MakerRequestStore} {next : RowVersion} (hid : next.row.id = id)
    (hown : next.attemptOf = next.begun ∨ s.Recorded id next.begun .reverted)
    (hclosed : ∀ attempt, 0 < attempt → attempt < next.begun → s.Recorded id attempt .reverted) :
    Guarded ⟨store, next :: s.history⟩ := by
  have hsub : ∀ v ∈ s.history, v ∈ next :: s.history := fun v hv => List.mem_cons_of_mem _ hv
  refine ⟨fun v hv => ?_, fun k c hc attempt hpos hlt => ?_⟩
  · rcases List.mem_cons.mp hv with rfl | hv
    · rw [hid]
      exact hown.imp (fun heq => heq) fun hrecorded => hrecorded.mono hsub
    · exact (h.own v hv).imp (fun heq => heq) fun hrecorded => hrecorded.mono hsub
  · rw [current_cons] at hc
    split at hc
    · rename_i hk
      cases hc
      rw [← hk, hid]
      exact (hclosed attempt hpos hlt).mono hsub
    · exact (h.closed k c hc attempt hpos hlt).mono hsub

theorem Guarded.step (hkept : s.Kept) (hkeeps : s.Keeps action) : (s.step action).Guarded := by
  cases action with
  | save held value =>
    simp only [MakerTabs.step]
    split
    · rename_i snapshot current hsave
      obtain ⟨-, -, hcurrent⟩ := save_eq_some hsave
      exact h.write saved_id (h.saved_own hkept hsave hkeeps) (h.closed _ current hcurrent)
    · exact h
  | begin id =>
    simp only [MakerTabs.step]
    split
    · rename_i store row current hbegin hcurrent
      obtain ⟨prior, hprior, hfree, hrow, -⟩ := beginMakerSettlement_ok hbegin
      let next : RowVersion := ⟨row, current.begun + 1, current.begun + 1⟩
      have hid : next.row.id = id := by
        rw [show next.row = _ from hrow]
        exact (Table.get?_eq_some.mp hprior).2
      have hlinked := hkept.linked id
      rw [hprior, hcurrent, Option.map_some, Option.some.injEq] at hlinked
      refine h.write hid (Or.inl rfl) fun attempt hpos hlt => ?_
      exact h.begins hkept hcurrent (hlinked ▸ hfree) hpos (Nat.le_of_lt_succ hlt)
    · exact h
  | batch rows reserveComparison now =>
    simp only [MakerTabs.step]
    split
    · rename_i store hbatch
      have hsub : ∀ v ∈ s.history, v ∈ rows.map (fun row => (⟨row, 0, 0⟩ : RowVersion)) ++ s.history :=
        fun v hv => List.mem_append_right _ hv
      refine ⟨fun v hv => ?_, fun id c hc attempt hpos hlt => ?_⟩
      · rcases List.mem_append.mp hv with hv | hv
        · obtain ⟨row, -, rfl⟩ := List.mem_map.mp hv
          exact Or.inl rfl
        · exact (h.own v hv).imp (fun heq => heq) fun hrecorded => hrecorded.mono hsub
      · rw [current_batch] at hc
        cases hfind : rows.find? fun row => row.id = id with
        | none =>
          rw [hfind] at hc
          exact (h.closed id c hc attempt hpos hlt).mono hsub
        | some row =>
          rw [hfind] at hc
          cases hc
          exact absurd hlt (Nat.not_lt_zero _)
    · exact h

theorem Guarded.waits (hkept : s.Kept) (action : Action) : s.Waits action := by
  cases action with
  | begin id =>
    rintro ⟨store, row⟩ current hbegin hcurrent attempt hpos hle
    obtain ⟨prior, hprior, hfree, -, -⟩ := beginMakerSettlement_ok hbegin
    have hlinked := hkept.linked id
    rw [hprior, hcurrent, Option.map_some, Option.some.injEq] at hlinked
    exact h.begins hkept hcurrent (hlinked ▸ hfree) hpos hle
  | save | batch => trivial

theorem Guarded.one {attempt' : Nat} (hopen : s.Unresolved id attempt)
    (hopen' : s.Unresolved id attempt') : attempt = attempt' := by
  obtain ⟨current, hcurrent, hpos, hle, hnot, -⟩ := hopen
  obtain ⟨current', hcurrent', hpos', hle', hnot', -⟩ := hopen'
  rw [hcurrent] at hcurrent'
  cases hcurrent'
  have hlast : attempt = current.begun := by
    by_contra hne
    exact hnot (h.closed id current hcurrent attempt hpos (by omega))
  have hlast' : attempt' = current.begun := by
    by_contra hne
    exact hnot' (h.closed id current hcurrent attempt' hpos' (by omega))
  omega

end

/-! ## The fence -/

theorem keeps_iff_fresh : s.Keeps action ↔ s.Fresh action := by
  cases action with
  | save held value =>
    constructor
    · intro h snapshot current hsave hlt hpending
      exact (savedRow_pending_iff hpending).mp (h snapshot current hsave hlt hpending)
    · intro h snapshot current hsave hlt hpending
      exact (savedRow_pending_iff hpending).mpr (h snapshot current hsave hlt hpending)
  | begin | batch => exact Iff.rfl

theorem along_keeps_iff :
    Along MakerTabs.step Keeps s actions ↔ Along MakerTabs.step Fresh s actions := by
  induction actions generalizing s with
  | nil => exact Iff.rfl
  | cons action actions ih => exact and_congr keeps_iff_fresh ih

theorem along_waits (h : s.Guarded) (hkept : s.Kept)
    (hkeeps : Along MakerTabs.step Keeps s actions) : Along MakerTabs.step Waits s actions := by
  induction actions generalizing s with
  | nil => trivial
  | cons action actions ih =>
    exact ⟨h.waits hkept action, ih (h.step hkept hkeeps.1) (hkept.step action) hkeeps.2⟩

theorem guarded_run (hkeeps : Along MakerTabs.step Keeps empty actions) :
    Guarded (run MakerTabs.step empty actions) := by
  have hboth : Kept (run MakerTabs.step empty actions) ∧ Guarded (run MakerTabs.step empty actions) :=
    run_invariant_along (I := fun s => Kept s ∧ Guarded s)
      (fun s action hkeeps h => ⟨h.1.step action, h.2.step h.1 hkeeps⟩) hkeeps
      ⟨kept_empty, guarded_empty⟩
  exact hboth.2

/-- The attempts of a run are fenced exactly when no save from before the attempt that is pending
carries an attempt that the rule of saves takes for a later one. -/
theorem fenced_iff (actions : List Action) :
    Fenced actions ↔ Along MakerTabs.step Fresh empty actions := by
  rw [← along_keeps_iff]
  refine ⟨fun h => h.keeps, fun hkeeps => ⟨hkeeps, ?_, ?_, ?_⟩⟩
  · rintro before after id current rfl hcurrent hconfirmed
    rw [run_append]
    exact (kept_run before).confirmed_run hcurrent hconfirmed after
  · exact along_waits guarded_empty kept_empty hkeeps
  · rintro before ⟨after, rfl⟩ id attempt attempt' hopen hopen'
    exact (guarded_run (along_append hkeeps).1).one hopen hopen'

def reservationRow : SavedMakerRequest :=
  ⟨⟨"0x1".toList, "0x2".toList, "0x3".toList, "0x4".toList, 1000⟩, some "0x5".toList,
    some .reservation, some "0x6".toList, none, none⟩

def answeredRow : SavedMakerRequest := { reservationRow with executableAnswer := some (.object []) }

def attemptedRow (status : SettlementStatus) : SavedMakerRequest :=
  { answeredRow with settlementAttempt := some ⟨status, some "0x7".toList⟩ }

/-- A tab that holds the row with its reverted attempt refreshes the quote after another tab began
the next attempt. -/
def refreshRun : List Action :=
  [.batch [reservationRow] (some "0x5".toList) 100, .save 0 answeredRow, .begin reservationRow.id,
    .save 0 (attemptedRow .submitted), .save 0 (attemptedRow .reverted), .begin reservationRow.id,
    .save 1 (attemptedRow .reverted), .begin reservationRow.id]

/-- After the refresh a third attempt begins while the second one is unresolved. -/
theorem fenced_not : ¬ Fenced refreshRun := by
  intro h
  have hsecond : (run MakerTabs.step empty refreshRun).Unresolved reservationRow.id 2 :=
    ⟨_, rfl, by decide, by decide, by unfold Recorded; decide +kernel,
      by unfold Recorded; decide +kernel⟩
  have hthird : (run MakerTabs.step empty refreshRun).Unresolved reservationRow.id 3 :=
    ⟨_, rfl, by decide, by decide, by unfold Recorded; decide +kernel,
      by unfold Recorded; decide +kernel⟩
  have hsame := h.one refreshRun (List.prefix_refl _) reservationRow.id 2 3 hsecond hthird
  exact absurd hsame (by decide)

end MakerTabs

end App20.Rfq
