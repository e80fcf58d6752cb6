import App20.Confidential.Client

/-!
# What the clients hand to the relayer

The world of the clients' sections: the journal's file, which a save replaces as a whole, and the
trace of what happened. The submissions are told from the trace.

* `reachable_good`: what holds in every state, wherever a call fails or a process ends.
* `submissions_safe`: a submission is handed over when its entry stands in the journal and every
  earlier one is resolved; the confirmed entries are those of the successful submissions.
-/

namespace App20.Confidential

open App20.Lib App20.Domain

/-! ## Traces -/

inductive ClientEvent where
  | saved (state : ConfidentialJournalState)
  | read (hash : Text) (receipt : TransactionReceipt)
  | handed (id : Text) (mode : AttemptMode)

/-- A submission that was recorded, with the receipt that was read last while it was pending. -/
structure Recorded where
  id : Text
  mode : AttemptMode
  handed : Nat
  hash : Option Text
  receipt : Option TransactionReceipt
  closed : Bool

namespace Recorded

def new (id : Text) (mode : AttemptMode) : Recorded := ⟨id, mode, 0, none, none, false⟩

/-- The journal's entry. -/
def entry (r : Recorded) : ConfidentialAttempt := ⟨r.id, r.mode, r.hash⟩

/-- The submission was handed over once, and a receipt of its hash told how it ended. -/
def Resolved (r : Recorded) : Prop :=
  r.handed = 1 ∧ r.hash.isSome = true ∧
    ∃ receipt, r.receipt = some receipt ∧ (receipt.isSuccess = true ∨ receipt.isReverted = true)

def succeeded (r : Recorded) : Bool := r.closed && r.receipt.any TransactionReceipt.isSuccess

def sees (hash : Text) (receipt : TransactionReceipt) (r : Recorded) : Recorded :=
  if r.closed = false ∧ r.hash = some hash then { r with receipt := some receipt } else r

end Recorded

/-- The submissions after an event, the latest one first. An entry without a hash starts one, an
entry with a hash completes it, a journal without an entry closes it. -/
def observeClient (subs : List Recorded) : ClientEvent → List Recorded
  | .saved state =>
    match state.pending with
    | none => subs.modifyHead fun r => { r with closed := true }
    | some ⟨id, mode, none⟩ => .new id mode :: subs
    | some ⟨_, _, some hash⟩ => subs.modifyHead fun r => { r with hash := some hash }
  | .read hash receipt => subs.modifyHead (Recorded.sees hash receipt)
  | .handed _ _ => subs.modifyHead fun r => { r with handed := r.handed + 1 }

def recorded (trace : List ClientEvent) : List Recorded := trace.foldl observeClient []

def fileAfter (file : Option ConfidentialJournalState) :
    ClientEvent → Option ConfidentialJournalState
  | .saved state => some state
  | _ => file

def fileOf (trace : List ClientEvent) : Option ConfidentialJournalState :=
  trace.foldl fileAfter none

def confirmedIn (file : Option ConfidentialJournalState) : List ConfidentialAttempt :=
  (file.map ConfidentialJournalState.confirmed).getD []

/-- The entries of the submissions that succeeded, the oldest one first. -/
def succeededEntries (subs : List Recorded) : List ConfidentialAttempt :=
  ((subs.filter Recorded.succeeded).map Recorded.entry).reverse

/-! ## The world of a section -/

structure ClientWorld where
  file : Option ConfidentialJournalState
  trace : List ClientEvent

def ClientWorld.saved (w : ClientWorld) (state : ConfidentialJournalState) : ClientWorld :=
  ⟨some state, w.trace ++ [.saved state]⟩

def ClientWorld.add (w : ClientWorld) (e : ClientEvent) : ClientWorld :=
  { w with trace := w.trace ++ [e] }

/-- A save that fails may have replaced the file, a callback that fails may have handed the
submission over. The calls that are left out only read. -/
def clientBehaviour : Behaviour Query Query.Answer ClientWorld where
  returns
    | w, .load, file, w' => file = w.file ∧ w' = w
    | w, .save state, _, w' => w' = w.saved state
    | w, .receipt hash, receipt, w' => w' = w.add (.read hash receipt)
    | w, .submit id mode _, _, w' => w' = w.add (.handed id mode)
    | w, _, _, w' => w' = w
  stops
    | w, .save state, w' => w' = w ∨ w' = w.saved state
    | w, .submit id mode _, w' => w' = w ∨ w' = w.add (.handed id mode)
    | w, _, w' => w' = w

/-! ## The invariant -/

/-- The submission that the journal's entry stands for. -/
def Pending (subs : List Recorded) : Option ConfidentialAttempt → Prop
  | none => ∀ r ∈ subs, r.Resolved ∧ r.closed = true
  | some ⟨id, mode, none⟩ =>
    ∃ handed rest, subs = ⟨id, mode, handed, none, none, false⟩ :: rest ∧ handed ≤ 1 ∧
      ∀ r ∈ rest, r.Resolved ∧ r.closed = true
  | some ⟨id, mode, some hash⟩ =>
    ∃ receipt rest, subs = ⟨id, mode, 1, some hash, receipt, false⟩ :: rest ∧
      ∀ r ∈ rest, r.Resolved ∧ r.closed = true

def pendingIn (file : Option ConfidentialJournalState) : Option ConfidentialAttempt :=
  file.bind ConfidentialJournalState.pending

structure ClientHistory (trace : List ClientEvent) : Prop where
  handed : ∀ pre id mode post, trace = pre ++ .handed id mode :: post →
    pendingIn (fileOf pre) = some ⟨id, mode, none⟩ ∧
      ∃ rest, recorded pre = .new id mode :: rest ∧ ∀ r ∈ rest, r.Resolved ∧ r.closed = true
  grows : ∀ pre, pre <+: trace → confirmedIn (fileOf pre) <+: confirmedIn (fileOf trace)

structure ClientWorld.Good (w : ClientWorld) : Prop where
  isFile : w.file = fileOf w.trace
  confirmed : confirmedIn w.file = succeededEntries (recorded w.trace)
  pending : Pending (recorded w.trace) (pendingIn w.file)
  history : ClientHistory w.trace

/-! ## One event -/

theorem recorded_append (trace : List ClientEvent) (e : ClientEvent) :
    recorded (trace ++ [e]) = observeClient (recorded trace) e := by
  rw [recorded, List.foldl_append]
  rfl

theorem fileOf_append (trace : List ClientEvent) (e : ClientEvent) :
    fileOf (trace ++ [e]) = fileAfter (fileOf trace) e := by
  rw [fileOf, List.foldl_append]
  rfl

/-- A trace that is cut at a member: the member is the last one, or stands in the rest. -/
theorem append_singleton_eq {α : Type} {as pre post : List α} {a e : α}
    (h : as ++ [e] = pre ++ a :: post) :
    (as = pre ∧ e = a ∧ post = []) ∨ ∃ post', post = post' ++ [e] ∧ as = pre ++ a :: post' := by
  rcases List.eq_nil_or_concat post with rfl | ⟨post', b, rfl⟩
  · obtain ⟨rfl, hlast⟩ := List.append_inj' h rfl
    exact Or.inl ⟨rfl, List.singleton_inj.mp hlast, rfl⟩
  · rw [List.concat_eq_append, ← List.cons_append, ← List.append_assoc] at h
    obtain ⟨rfl, hlast⟩ := List.append_inj' h rfl
    obtain rfl := List.singleton_inj.mp hlast
    exact Or.inr ⟨post', List.concat_eq_append, rfl⟩

theorem ClientHistory.add {trace : List ClientEvent} {e : ClientEvent} (h : ClientHistory trace)
    (hhanded : ∀ id mode, e = .handed id mode → pendingIn (fileOf trace) = some ⟨id, mode, none⟩ ∧
        ∃ rest, recorded trace = .new id mode :: rest ∧ ∀ r ∈ rest, r.Resolved ∧ r.closed = true)
    (hgrows : confirmedIn (fileOf trace) <+: confirmedIn (fileOf (trace ++ [e]))) :
    ClientHistory (trace ++ [e]) := by
  constructor
  · intro pre id mode post hsplit
    rcases append_singleton_eq hsplit with ⟨rfl, he, -⟩ | ⟨post', -, htrace⟩
    · exact hhanded id mode he
    · exact h.handed pre id mode post' htrace
  · intro pre hpre
    rcases List.prefix_concat_iff.mp hpre with rfl | hpre
    · exact List.prefix_rfl
    · exact (h.grows pre hpre).trans hgrows

theorem ClientHistory.nil : ClientHistory [] := by
  refine ⟨fun pre id mode post h => ?_, fun pre hpre => ?_⟩
  · exact absurd h.symm (List.append_ne_nil_of_right_ne_nil _ (List.cons_ne_nil _ _))
  · obtain rfl := List.prefix_nil.mp hpre
    exact List.prefix_rfl

theorem ClientWorld.good_nil : (⟨none, []⟩ : ClientWorld).Good :=
  ⟨rfl, rfl, fun _ h => absurd h List.not_mem_nil, .nil⟩

/-! ## Steps that keep the invariant -/

variable {r : Recorded} {receipt : TransactionReceipt} {state : ConfidentialJournalState}
  {id : Text} {mode : AttemptMode} {subs : List Recorded} {entry : Option ConfidentialAttempt}

theorem succeededEntries_open {rest : List Recorded} (h : r.closed = false) :
    succeededEntries (r :: rest) = succeededEntries rest := by
  unfold succeededEntries
  rw [List.filter_cons_of_neg]
  simp [Recorded.succeeded, h]

theorem succeededEntries_closed {rest : List Recorded} (hclosed : r.closed = true)
    (hreceipt : r.receipt = some receipt) :
    succeededEntries (r :: rest) =
      succeededEntries rest ++ if receipt.isSuccess = true then [r.entry] else [] := by
  have hsucceeded : r.succeeded = receipt.isSuccess := by
    simp [Recorded.succeeded, hclosed, hreceipt]
  unfold succeededEntries
  by_cases h : receipt.isSuccess = true
  · rw [List.filter_cons_of_pos (hsucceeded.trans h), List.map_cons, List.reverse_cons, if_pos h]
  · rw [List.filter_cons_of_neg (by rwa [hsucceeded]), if_neg h, List.append_nil]

namespace ClientWorld

variable {w : ClientWorld}

theorem saved_isFile (w : ClientWorld) (state : ConfidentialJournalState) :
    (w.saved state).file = fileOf (w.saved state).trace :=
  (fileOf_append w.trace (.saved state)).symm

/-- A save that does not shorten the confirmed list keeps the history. -/
theorem Good.history_saved (h : w.Good) (hgrows : confirmedIn w.file <+: state.confirmed) :
    ClientHistory (w.trace ++ [.saved state]) := by
  refine h.history.add (fun id mode he => nomatch he) ?_
  rw [fileOf_append, ← h.isFile]
  exact hgrows

theorem Good.read (h : w.Good) (hash : Text) (receipt : TransactionReceipt) :
    (w.add (.read hash receipt)).Good := by
  have hrecorded : recorded (w.trace ++ [.read hash receipt]) =
      (recorded w.trace).modifyHead (Recorded.sees hash receipt) := recorded_append _ _
  have hfile : fileOf (w.trace ++ [.read hash receipt]) = fileOf w.trace := fileOf_append _ _
  have hhistory : ClientHistory (w.trace ++ [.read hash receipt]) := by
    refine h.history.add (fun id mode he => nomatch he) ?_
    rw [hfile]
  have hpending := h.pending
  have hconfirmed := h.confirmed
  cases hsubs : recorded w.trace with
  | nil =>
    rw [hsubs] at hrecorded hpending hconfirmed
    exact ⟨h.isFile.trans hfile.symm, hconfirmed.trans (congrArg _ hrecorded.symm),
      hrecorded ▸ hpending, hhistory⟩
  | cons r rest =>
    rw [hsubs, List.modifyHead_cons] at hrecorded
    rw [hsubs] at hpending hconfirmed
    by_cases hsees : r.closed = false ∧ r.hash = some hash
    · have hnew : Recorded.sees hash receipt r = { r with receipt := some receipt } := if_pos hsees
      refine ⟨h.isFile.trans hfile.symm, ?_, ?_, hhistory⟩
      · show confirmedIn w.file = succeededEntries (recorded (w.trace ++ [.read hash receipt]))
        rw [hrecorded, hnew, hconfirmed, succeededEntries_open hsees.1]
        exact (succeededEntries_open (r := { r with receipt := some receipt }) hsees.1).symm
      · show Pending (recorded (w.trace ++ [.read hash receipt])) (pendingIn w.file)
        rw [hrecorded, hnew]
        -- only an entry with a hash is open to a receipt
        rcases hcase : pendingIn w.file with _ | ⟨id, mode, _ | known⟩
        · rw [hcase] at hpending
          have hclosed := (hpending r List.mem_cons_self).2
          rw [hsees.1] at hclosed
          cases hclosed
        · rw [hcase] at hpending
          obtain ⟨handed, rest', heq, -⟩ := hpending
          obtain ⟨rfl, -⟩ := List.cons.inj heq
          cases hsees.2
        · rw [hcase] at hpending
          obtain ⟨receipt', rest', heq, hrest⟩ := hpending
          obtain ⟨rfl, rfl⟩ := List.cons.inj heq
          exact ⟨some receipt, rest, rfl, hrest⟩
    · have hsame : Recorded.sees hash receipt r = r := if_neg hsees
      rw [hsame, ← hsubs] at hrecorded
      rw [← hsubs] at hpending hconfirmed
      exact ⟨h.isFile.trans hfile.symm, hconfirmed.trans (congrArg _ hrecorded.symm),
        hrecorded ▸ hpending, hhistory⟩

/-- The entry of a submission stands in the journal, and nothing was handed over yet. -/
def Entered (w : ClientWorld) (id : Text) (mode : AttemptMode)
    (state : ConfidentialJournalState) : Prop :=
  w.Good ∧ w.file = some { state with pending := some ⟨id, mode, none⟩ } ∧
    ∃ rest, recorded w.trace = .new id mode :: rest

theorem Good.enter (h : w.Good) (hidle : pendingIn w.file = none)
    (hstate : state.confirmed = confirmedIn w.file) (id : Text) (mode : AttemptMode) :
    (w.saved { state with pending := some ⟨id, mode, none⟩ }).Entered id mode state := by
  have hresolved := h.pending
  rw [hidle] at hresolved
  have hrecorded := recorded_append w.trace (.saved { state with pending := some ⟨id, mode, none⟩ })
  refine ⟨⟨saved_isFile _ _, ?_, ?_, h.history_saved ?_⟩, rfl, _, hrecorded⟩
  · show state.confirmed = succeededEntries (recorded (w.trace ++ _))
    rw [hrecorded]
    exact hstate.trans (h.confirmed.trans (succeededEntries_open rfl).symm)
  · show Pending (recorded (w.trace ++ _)) (some ⟨id, mode, none⟩)
    rw [hrecorded]
    exact ⟨0, _, rfl, Nat.zero_le 1, hresolved⟩
  · rw [← hstate]

/-- The submission was handed over, and its hash is not known. -/
def Sent (w : ClientWorld) (id : Text) (mode : AttemptMode) (state : ConfidentialJournalState) :
    Prop :=
  w.Good ∧ w.file = some { state with pending := some ⟨id, mode, none⟩ } ∧
    ∃ rest, recorded w.trace = ⟨id, mode, 1, none, none, false⟩ :: rest

theorem Entered.hand (h : w.Entered id mode state) :
    (w.add (.handed id mode)).Sent id mode state := by
  obtain ⟨hgood, hfile, rest, hsubs⟩ := h
  have hrecorded : recorded (w.trace ++ [.handed id mode]) =
      ⟨id, mode, 1, none, none, false⟩ :: rest := by
    rw [recorded_append, hsubs]
    rfl
  have hkept : fileOf (w.trace ++ [.handed id mode]) = fileOf w.trace := fileOf_append _ _
  have hpendingIn : pendingIn w.file = some ⟨id, mode, none⟩ := by rw [hfile]; rfl
  have hrest : ∀ r ∈ rest, r.Resolved ∧ r.closed = true := by
    have hpending := hgood.pending
    rw [hpendingIn, hsubs] at hpending
    obtain ⟨handed, rest', heq, -, hrest⟩ := hpending
    obtain ⟨-, rfl⟩ := List.cons.inj heq
    exact hrest
  refine ⟨⟨hgood.isFile.trans hkept.symm, ?_, ?_, hgood.history.add ?_ ?_⟩, hfile, rest, hrecorded⟩
  · show confirmedIn w.file = succeededEntries (recorded (w.trace ++ _))
    rw [hrecorded, succeededEntries_open rfl, hgood.confirmed, hsubs]
    exact succeededEntries_open rfl
  · show Pending (recorded (w.trace ++ _)) (pendingIn w.file)
    rw [hrecorded, hpendingIn]
    exact ⟨1, rest, rfl, Nat.le_refl 1, hrest⟩
  · intro id' mode' heq
    cases heq
    rw [← hgood.isFile]
    exact ⟨hpendingIn, rest, hsubs, hrest⟩
  · rw [hkept]

theorem Sent.complete (h : w.Sent id mode state) (hash : Text) :
    (w.saved { state with pending := some ⟨id, mode, some hash⟩ }).Good := by
  obtain ⟨hgood, hfile, rest, hsubs⟩ := h
  have hrecorded :
      recorded (w.trace ++ [.saved { state with pending := some ⟨id, mode, some hash⟩ }]) =
        ⟨id, mode, 1, some hash, none, false⟩ :: rest := by
    rw [recorded_append, hsubs]
    rfl
  have hrest : ∀ r ∈ rest, r.Resolved ∧ r.closed = true := by
    have hpending := hgood.pending
    rw [hfile, hsubs] at hpending
    obtain ⟨handed, rest', heq, -, hrest⟩ := hpending
    obtain ⟨-, rfl⟩ := List.cons.inj heq
    exact hrest
  have hstate : confirmedIn w.file = state.confirmed := by rw [hfile]; rfl
  refine ⟨saved_isFile _ _, ?_, ?_, hgood.history_saved ?_⟩
  · show state.confirmed = succeededEntries (recorded (w.trace ++ _))
    rw [hrecorded, succeededEntries_open rfl, ← hstate, hgood.confirmed, hsubs]
    exact succeededEntries_open rfl
  · show Pending (recorded (w.trace ++ _)) (some ⟨id, mode, some hash⟩)
    rw [hrecorded]
    exact ⟨none, rest, rfl, hrest⟩
  · rw [hstate]

/-- The journal holds `state`, whose entry's hash has the receipt. -/
def Receipted (w : ClientWorld) (state : ConfidentialJournalState)
    (receipt : TransactionReceipt) : Prop :=
  w.Good ∧ w.file = some state ∧ ∃ id mode hash rest, state.pending = some ⟨id, mode, some hash⟩ ∧
    recorded w.trace = ⟨id, mode, 1, some hash, some receipt, false⟩ :: rest

theorem Good.receipted (h : w.Good) (hfile : w.file = some state) {hash : Text}
    (hpending : state.pending = some ⟨id, mode, some hash⟩) (receipt : TransactionReceipt) :
    (w.add (.read hash receipt)).Receipted state receipt := by
  have hcase := h.pending
  have hin : pendingIn w.file = some ⟨id, mode, some hash⟩ := by rw [hfile]; exact hpending
  rw [hin] at hcase
  obtain ⟨receipt', rest, hsubs, -⟩ := hcase
  refine ⟨h.read hash receipt, hfile, id, mode, hash, rest, hpending, ?_⟩
  show recorded (w.trace ++ _) = _
  rw [recorded_append, hsubs]
  exact congrArg (· :: rest) (if_pos ⟨rfl, rfl⟩)

theorem Receipted.close (h : w.Receipted state receipt)
    (hfinal : receipt.isSuccess = true ∨ receipt.isReverted = true) {entry : ConfidentialAttempt}
    (hentry : state.pending = some entry) : (w.saved { state with
      pending := none
      confirmed := if receipt.isSuccess = true then state.confirmed ++ [entry]
        else state.confirmed }).Good := by
  obtain ⟨hgood, hfile, id, mode, hash, rest, hpending, hsubs⟩ := h
  rw [hpending] at hentry
  obtain rfl := Option.some.inj hentry
  have hstate : confirmedIn w.file = state.confirmed := by rw [hfile]; rfl
  have hrest : ∀ r ∈ rest, r.Resolved ∧ r.closed = true := by
    have hcase := hgood.pending
    have hin : pendingIn w.file = some ⟨id, mode, some hash⟩ := by rw [hfile]; exact hpending
    rw [hin, hsubs] at hcase
    obtain ⟨receipt', rest', heq, hrest⟩ := hcase
    obtain ⟨-, rfl⟩ := List.cons.inj heq
    exact hrest
  have hrecorded : ∀ state' : ConfidentialJournalState, state'.pending = none →
      recorded (w.trace ++ [.saved state']) =
        ⟨id, mode, 1, some hash, some receipt, true⟩ :: rest := by
    intro state' hnone
    rw [recorded_append, hsubs, observeClient, hnone]
    rfl
  have hbefore : succeededEntries rest = state.confirmed := by
    rw [← hstate, hgood.confirmed, hsubs]
    exact (succeededEntries_open rfl).symm
  refine ⟨saved_isFile _ _, ?_, ?_, hgood.history_saved ?_⟩
  · show (if receipt.isSuccess = true then _ else _) = succeededEntries (recorded (w.trace ++ _))
    rw [hrecorded _ rfl, succeededEntries_closed rfl rfl, hbefore]
    split
    · rfl
    · exact (List.append_nil _).symm
  · show Pending (recorded (w.trace ++ _)) none
    rw [hrecorded _ rfl]
    exact List.forall_mem_cons.mpr ⟨⟨⟨rfl, rfl, receipt, rfl, hfinal⟩, rfl⟩, hrest⟩
  · rw [hstate]
    show state.confirmed <+: if receipt.isSuccess = true then _ else _
    split
    · exact List.prefix_append _ _
    · exact List.prefix_rfl

end ClientWorld

/-! ## What the sections do -/

theorem checkJournal_ok {a : ConfidentialAgreement} {stored : Option ConfidentialJournalState}
    (h : checkJournal a stored = .ok state) :
    state.confirmed = confirmedIn stored ∧ state.pending = pendingIn stored ∧
      (state.pending ≠ none → stored = some state) := by
  unfold checkJournal at h
  simp only [bind_ok] at h
  obtain ⟨_, _, _, _, hreturn⟩ := h
  obtain rfl := Except.ok.inj hreturn
  cases stored with
  | none => exact ⟨rfl, rfl, fun h => absurd rfl h⟩
  | some state => exact ⟨rfl, rfl, fun _ => rfl⟩

namespace Client

open Section

variable {c : Client} {α : Type} {w : ClientWorld}

/-- The section keeps the invariant from a state on, and ends in states with `post`. -/
abbrev Keeps (p : ClientSection α) (post : α → ClientWorld → Prop) (w : ClientWorld) : Prop :=
  p.Upholds clientBehaviour ClientWorld.Good post w

/-- Nothing is pending. -/
def Idle (w : ClientWorld) : Prop := pendingIn w.file = none

theorem keeps_reading {q : Query} {post : q.Answer → ClientWorld → Prop} (hw : w.Good)
    (hreturns : ∀ r w', clientBehaviour.returns w q r w' → w' = w)
    (hstops : ∀ w', clientBehaviour.stops w q w' → w' = w) (hpost : ∀ r, post r w) :
    Keeps (request q) post w := by
  refine ⟨hw, fun w' h => ?_, fun r w' h => ?_⟩
  · rw [hstops w' h]
    exact hw
  · rw [hreturns r w' h]
    exact ⟨hw, hpost r⟩

theorem keeps_journal {post : ConfidentialJournalState → ClientWorld → Prop} (hw : w.Good)
    (hpost : ∀ state, state.confirmed = confirmedIn w.file → state.pending = pendingIn w.file →
      (state.pending ≠ none → w.file = some state) → post state w) : Keeps c.journal post w := by
  refine upholds_bind.mpr ⟨hw, fun w' h => ?_, fun stored w' h => ?_⟩
  · obtain rfl : w' = w := h
    exact hw
  · obtain ⟨rfl, rfl⟩ : stored = w.file ∧ w' = w := h
    refine ⟨hw, upholds_ofExcept hw fun state hstate => ?_⟩
    obtain ⟨hconfirmed, hpending, hfile⟩ := checkJournal_ok hstate
    exact hpost state hconfirmed hpending hfile

theorem keeps_save {post : Unit → ClientWorld → Prop} (hw : w.Good) (hsaved : (w.saved state).Good)
    (hpost : post () (w.saved state)) : Keeps (request (.save state)) post w := by
  refine ⟨hw, fun w' h => ?_, fun r w' h => ?_⟩
  · rcases (h : w' = w ∨ w' = w.saved state) with rfl | rfl
    · exact hw
    · exact hsaved
  · obtain rfl : w' = w.saved state := h
    exact ⟨hsaved, hpost⟩

theorem keeps_checkSettled {post : Unit → ClientWorld → Prop} (hw : w.Good) (hpost : post () w) :
    Keeps (checkSettled mode receipt) post w := by
  unfold checkSettled
  split
  · refine upholds_bind.mpr (keeps_reading hw (fun _ _ h => h) (fun _ h => h) fun _ => ?_)
    exact upholds_throwIf hw fun _ => hpost
  · exact ⟨hw, hpost⟩

/-- Reconciling ends with an empty journal entry, if it ends. -/
theorem keeps_reconcileUnlocked (hw : w.Good) : Keeps c.reconcileUnlocked (fun _ => Idle) w := by
  refine upholds_bind.mpr (keeps_journal hw fun state _ hpending hfile => ?_)
  rcases hcase : state.pending with _ | ⟨id, mode, _ | hash⟩
  · exact ⟨hw, hpending.symm.trans hcase⟩
  · exact hw
  · have hstored : w.file = some state := hfile (by rw [hcase]; exact Option.some_ne_none _)
    -- the receipt is read before the entry is cleared
    refine upholds_bind.mpr ⟨hw, fun w' h => ?_, fun receipt w' h => ?_⟩
    · obtain rfl : w' = w := h
      exact hw
    obtain rfl : w' = w.add (.read hash receipt) := h
    have hreceipted := hw.receipted hstored hcase receipt
    have hread := hreceipted.1
    refine ⟨hread, upholds_bind.mpr (upholds_throwIf hread fun hfinal => ?_)⟩
    have hdecided : receipt.isSuccess = true ∨ receipt.isReverted = true := by
      rw [not_and_or, Bool.not_eq_false, Bool.not_eq_false] at hfinal
      exact hfinal
    have hclosed := hreceipted.close hdecided hcase
    refine upholds_bind.mpr (keeps_checkSettled hread ?_)
    exact keeps_save hread hclosed rfl

/-- Reads of the chain, the journal and the wallets. -/
def Reading : Query → Prop
  | .save _ | .receipt _ | .submit .. => False
  | _ => True

theorem keeps_within {p : ClientSection α} (hw : w.Good) (h : p.Within Reading) :
    Keeps p (fun _ w' => w' = w) w := by
  refine Within.upholds (fun q r w' hq hr => ?_) (fun q w' hq hs => ?_) hw h
  · cases q with
    | load => exact hr.2
    | save | receipt | submit => exact hq.elim
    | _ => exact hr
  · cases q with
    | save | receipt | submit => exact hq.elim
    | _ => exact hs

theorem keeps_broadcast {submission : Submission} (hw : w.Good) :
    Keeps (c.broadcast mode id submission) (fun _ _ => True) w := by
  refine upholds_bind.mpr (upholds_throwIf hw fun _ => ?_)
  refine upholds_bind.mpr ((keeps_reconcileUnlocked hw).mono fun _ v hv hidle => ?_)
  refine upholds_bind.mpr (keeps_journal hv fun state hconfirmed _ _ => ?_)
  -- the entry stands before the submission
  have hentered := hv.enter hidle hconfirmed id mode
  refine upholds_bind.mpr (keeps_save hv hentered.1 ?_)
  have hsent := hentered.hand
  refine upholds_bind.mpr ⟨hentered.1, fun v' h => ?_, fun transactionHash v' h => ?_⟩
  · rcases (h : v' = _ ∨ v' = _) with rfl | rfl
    · exact hentered.1
    · exact hsent.1
  obtain rfl : v' = _ := h
  refine ⟨hsent.1, upholds_bind.mpr (upholds_ofExcept hsent.1 fun hash _ => ?_)⟩
  have hcomplete := hsent.complete hash
  refine upholds_bind.mpr (keeps_save hsent.1 hcomplete ?_)
  refine upholds_bind.mpr (keeps_reading hcomplete (fun _ _ h => h) (fun _ h => h) fun _ => ?_)
  refine upholds_bind.mpr ((keeps_reconcileUnlocked hcomplete).mono fun _ u hu _ => ?_)
  refine upholds_bind.mpr ⟨hu, fun u' h => ?_, fun receipt u' h => ?_⟩
  · obtain rfl : u' = u := h
    exact hu
  obtain rfl : u' = _ := h
  have hread := hu.read transactionHash receipt
  exact ⟨hread, upholds_bind.mpr (upholds_throwIf hread fun _ => ⟨hread, trivial⟩)⟩

theorem within_journal : c.journal.Within Reading :=
  within_bind (within_request trivial) fun _ => within_ofExcept

theorem within_discoverNotes {registered : Bool} : (discoverNotes registered).Within Reading := by
  cases registered with
  | true => exact within_request trivial
  | false => exact trivial

theorem within_snapshot : c.snapshot.Within Reading := by
  refine within_bind (within_request trivial) fun _ => ?_
  refine within_bind (within_request trivial) fun _ => ?_
  refine within_bind within_throwIf fun _ => within_bind within_ofExcept fun unregistered => ?_
  refine within_bind within_ofExcept fun _ => within_bind within_throwIf fun _ => ?_
  refine within_bind within_discoverNotes fun _ => within_bind within_ofExcept fun _ => ?_
  exact within_bind within_ofExcept fun _ => within_bind within_journal fun _ => trivial

theorem within_prepare {mode : ConfidentialMode} : (c.prepare mode).Within Reading := by
  refine within_bind within_snapshot fun _ => within_bind within_throwIf fun _ => ?_
  refine within_bind within_ofExcept fun _ => within_bind within_throwIf fun _ => ?_
  refine within_bind within_throwIf fun _ => within_bind within_throwIf fun _ => ?_
  refine within_bind within_throwIf fun _ => within_bind (within_request trivial) fun _ => ?_
  refine within_bind within_ofExcept fun _ => within_bind ?_ fun _ => trivial
  exact within_bind within_ofExcept fun _ => trivial

theorem within_funding {role : ConfidentialRole} : (c.funding role).Within Reading := by
  refine within_bind within_snapshot fun _ => within_bind within_ofExcept fun _ => ?_
  exact within_bind within_throwIf fun _ => within_bind within_throwIf fun _ => trivial

theorem within_checkProvingBlock {proof : ConfidentialProof} {header : BlockHeader}
    {current : Inspection} : (checkProvingBlock proof header current).Within Reading := by
  refine within_bind within_ofExcept fun _ => within_bind within_ofExcept fun _ => ?_
  refine within_bind within_throwIf fun _ => within_bind (within_request trivial) fun _ => ?_
  exact within_throwIf

theorem within_provingBlock : c.provingBlock.Within Reading := by
  unfold provingBlock
  split
  · exact within_bind (within_request trivial) fun _ => trivial
  · exact trivial

theorem within_checkPinned {proof : ConfidentialProof} {header : Option BlockHeader}
    {current : Inspection} : (checkPinned proof header current).Within Reading := by
  cases header with
  | none => exact trivial
  | some header => exact within_checkProvingBlock

theorem keeps_proveUnlocked {prepared : ConfidentialPrepared}
    {approvals : List ConfidentialApproval} (hw : w.Good) :
    Keeps (c.proveUnlocked prepared approvals) (fun _ _ => True) w := by
  refine upholds_bind.mpr (upholds_ofExcept hw fun _ _ => ?_)
  refine upholds_bind.mpr ((keeps_reconcileUnlocked hw).mono fun _ v hv _ => ?_)
  refine (keeps_within hv ?_).mono fun _ _ _ _ => trivial
  refine within_bind (within_request trivial) fun _ => within_bind within_ofExcept fun _ => ?_
  refine within_bind within_ofExcept fun _ => within_bind within_provingBlock fun _ => ?_
  refine within_bind within_throwIf fun _ => within_bind (within_request trivial) fun _ => ?_
  refine within_bind within_ofExcept fun _ => within_bind (within_request trivial) fun _ => ?_
  exact within_bind within_checkPinned fun _ => within_bind within_ofExcept fun _ => trivial

theorem keeps_program {op : Operation} (hw : w.Good) :
    Keeps (op.program c) (fun _ _ => True) w := by
  cases op with
  | reconcile => exact (keeps_reconcileUnlocked hw).mono fun _ _ _ _ => trivial
  | prepare mode =>
    have hwithin : (c.prepare mode).forget.Within Reading :=
      within_bind within_prepare fun _ => trivial
    exact (keeps_within hw hwithin).mono fun _ _ _ _ => trivial
  | prove prepared approvals =>
    exact upholds_bind.mpr ((keeps_proveUnlocked hw).mono fun _ _ hv _ => ⟨hv, trivial⟩)
  | execute prepared approvals =>
    refine upholds_bind.mpr (upholds_bind.mpr (upholds_throwIf hw fun _ => ?_))
    refine upholds_bind.mpr ((keeps_proveUnlocked hw).mono fun submission v hv _ => ?_)
    exact (keeps_broadcast hv).mono fun _ _ hu _ => ⟨hu, trivial⟩
  | fund role =>
    refine upholds_bind.mpr (upholds_bind.mpr (upholds_throwIf hw fun _ => ?_))
    refine upholds_bind.mpr ((keeps_reconcileUnlocked hw).mono fun _ v hv _ => ?_)
    refine upholds_bind.mpr ((keeps_within hv within_funding).mono fun _ u hu _ => ?_)
    exact (keeps_broadcast hu).mono fun _ _ ht _ => ⟨ht, trivial⟩

end Client

/-! ## Runs -/

def StartsClient (p : ClientSection Unit) : Prop := ∃ c op, p = Client.Operation.program c op

/-- The states that runs of clients over a new journal reach. -/
def ClientReachable (s : Site Query Query.Answer ClientWorld) : Prop :=
  Relation.ReflTransGen (Site.Step clientBehaviour StartsClient) ⟨⟨none, []⟩, .free⟩ s

theorem reachable_good {s : Site Query Query.Answer ClientWorld} (h : ClientReachable s) :
    s.world.Good := by
  refine reachable_invariant ?_ ClientWorld.good_nil h
  rintro p ⟨c, op, rfl⟩ w hw
  exact Client.keeps_program hw

/-! ## Submissions -/

structure SubmissionsSafe (file : Option ConfidentialJournalState) (trace : List ClientEvent) :
    Prop where
  /-- A submission is handed over when its entry stands in the journal, for the first time, and
  every earlier one was resolved. -/
  handed : ∀ pre id mode post, trace = pre ++ .handed id mode :: post →
    pendingIn (fileOf pre) = some ⟨id, mode, none⟩ ∧
      ∃ rest, recorded pre = .new id mode :: rest ∧ ∀ r ∈ rest, r.Resolved ∧ r.closed = true
  isFile : file = fileOf trace
  /-- Nothing follows a submission whose hash was not recorded. -/
  blocks : ∀ r ∈ (recorded trace).tail, r.hash.isSome = true
  once : ∀ r ∈ recorded trace, r.handed ≤ 1
  /-- Every submission that succeeded has its entry, in order, and no other entry is there. -/
  confirmed : confirmedIn file = succeededEntries (recorded trace)
  grows : ∀ pre, pre <+: trace → confirmedIn (fileOf pre) <+: confirmedIn file
  distinct : ((recorded trace).filterMap Recorded.hash).Nodup → (confirmedIn file).Nodup

theorem Pending.tail (h : Pending subs entry) : ∀ r ∈ subs.tail, r.Resolved := by
  rcases entry with _ | ⟨id, mode, _ | hash⟩
  · exact fun r hr => (h r (List.mem_of_mem_tail hr)).1
  · obtain ⟨handed, rest, rfl, -, hrest⟩ := h
    exact fun r hr => (hrest r hr).1
  · obtain ⟨receipt, rest, rfl, hrest⟩ := h
    exact fun r hr => (hrest r hr).1

theorem Pending.once (h : Pending subs entry) : ∀ r ∈ subs, r.handed ≤ 1 := by
  rcases entry with _ | ⟨id, mode, _ | hash⟩
  · exact fun r hr => (h r hr).1.1.le
  · obtain ⟨handed, rest, rfl, hhanded, hrest⟩ := h
    exact List.forall_mem_cons.mpr ⟨hhanded, fun r hr => (hrest r hr).1.1.le⟩
  · obtain ⟨receipt, rest, rfl, hrest⟩ := h
    exact List.forall_mem_cons.mpr ⟨Nat.le_refl 1, fun r hr => (hrest r hr).1.1.le⟩

theorem Pending.succeeded_hash (h : Pending subs entry) (hr : r ∈ subs)
    (hsucceeded : r.succeeded = true) : r.hash.isSome = true := by
  have hclosed : r.closed = true := (Bool.and_eq_true_iff.mp hsucceeded).1
  rcases entry with _ | ⟨id, mode, _ | hash⟩
  · exact (h r hr).1.2.1
  · obtain ⟨handed, rest, rfl, -, hrest⟩ := h
    rcases List.mem_cons.mp hr with rfl | hr
    · cases hclosed
    · exact (hrest r hr).1.2.1
  · obtain ⟨receipt, rest, rfl, hrest⟩ := h
    rcases List.mem_cons.mp hr with rfl | hr
    · rfl
    · exact (hrest r hr).1.2.1

theorem nodup_entries (hhash : ∀ r ∈ subs, r.succeeded = true → r.hash.isSome = true)
    (h : (subs.filterMap Recorded.hash).Nodup) : (succeededEntries subs).Nodup := by
  unfold succeededEntries
  rw [List.nodup_reverse]
  induction subs with
  | nil => exact List.nodup_nil
  | cons r rest ih =>
    obtain ⟨hr, hrest⟩ := List.forall_mem_cons.mp hhash
    have htail : (rest.filterMap Recorded.hash).Nodup :=
      h.sublist ((List.sublist_cons_self r rest).filterMap Recorded.hash)
    by_cases hsucceeded : r.succeeded = true
    · rw [List.filter_cons_of_pos hsucceeded, List.map_cons, List.nodup_cons]
      refine ⟨fun hmem => ?_, ih hrest htail⟩
      obtain ⟨hash, hhash⟩ := Option.isSome_iff_exists.mp (hr hsucceeded)
      rw [List.filterMap_cons_some hhash, List.nodup_cons] at h
      obtain ⟨q, hq, hentry⟩ := List.mem_map.mp hmem
      have hsame : q.hash = some hash := by
        rw [← hhash]
        exact congrArg ConfidentialAttempt.hash hentry
      exact h.1 (List.mem_filterMap.mpr ⟨q, List.mem_of_mem_filter hq, hsame⟩)
    · rw [List.filter_cons_of_neg hsucceeded]
      exact ih hrest htail

/-- A client over a journal that does not exist yet. -/
def freshClient : Client where
  platform := ⟨0x300, 1, fun _ => 0, fun _ _ _ _ => true⟩
  verify := fun _ _ _ _ => some true
  agreement := ⟨confidentialRfqSchema, hex 1, hex 0x200, hex 0x67, hex 0x99, hex 0x123, hex 0x456,
    1000, ⟨hex 0x400, hex 0x500, "1234".toList, "2345".toList, hex 0x600, hex 0x700, hex 0x789⟩,
    hex 0, hex 0x300⟩
  viewingKey := 17
  proofOnly := false
  mainnet := false
  starkKey := hex 17
  verifyProof := fun _ _ => .error "Unexpected proof output or screening payload."

end App20.Confidential
