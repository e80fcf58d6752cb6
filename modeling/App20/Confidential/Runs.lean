import App20.Confidential.Bundles

/-!
# Runs of the confidential escrow

Anybody may call the account, at any time and with any arguments; only a callback that returns
changes it. A run keeps a receipt of every call that returned.

`escrow_custody` says what the receipts of a run show: which signatures cover a bundle that was
let pass, and in which order settlements and refunds can follow one another.
-/

namespace App20.Confidential

open App20.Lib App20.Lib.Exec App20.Starknet

/-! ## The system -/

/-- The entry points. -/
inductive Request where
  | isValidSignature (hash : Felt) (signature : List Felt)
  | isCustomSignatureValid (calls : List Call) (additionalData signature : List Felt)
  | privacyCompute (identityKey privateViewkey : Felt) (mode : U8)
  | privacyInvokeWithComputation (tag : Felt) (mode : U8)

inductive Response where
  | validity (v : Felt)
  | computation (tag : Felt) (mode : U8)
  | deposits (ds : List OpenNoteDeposit)
  deriving DecidableEq

def respond (P : Platform) (cx : CallContext) : Request → Exec AccountPanic Storage Response
  | .isValidSignature hash signature => return .validity (isValidSignature hash signature)
  | .isCustomSignatureValid calls additionalData signature => do
    return .validity (← lift (isCustomSignatureValid P cx (← get) calls additionalData signature))
  | .privacyCompute identityKey privateViewkey mode => do
    let (tag, mode) ← lift (privacyCompute P identityKey privateViewkey mode)
    return .computation tag mode
  | .privacyInvokeWithComputation tag mode => do
    return .deposits (← privacyInvokeWithComputation cx tag mode)

/-- A call that returned. -/
structure Receipt where
  time : U64
  request : Request
  response : Response

structure Sys where
  storage : Storage
  now : U64
  receipts : List Receipt

inductive Event where
  /-- The block time moves forward. -/
  | advance (time : U64)
  /-- A call, with what the chain answers about the classes of contracts. -/
  | call (caller : ContractAddress) (classHashAt : ContractAddress → Option Felt)
      (request : Request)

/-- Only a later block time is taken over, so time never runs back. -/
def step (P : Platform) (s : Sys) : Event → Sys
  | .advance time => if s.now.val ≤ time.val then { s with now := time } else s
  | .call caller classHashAt request =>
    match (respond P ⟨caller, s.now, classHashAt⟩ request).run s.storage with
    | .ok (response, t) => ⟨t, s.now, s.receipts ++ [⟨s.now, request, response⟩]⟩
    | .error _ => s

/-- The mode in which a callback was executed. -/
def Receipt.executed (r : Receipt) : Option U8 :=
  match r.request with
  | .privacyInvokeWithComputation _ mode => some mode
  | _ => none

/-! ## What a call does -/

variable {mode : U8} {request : Request} {response : Response} {terms : Terms} {token : Felt}
  {r : Receipt} {now : U64} {u v : Storage}

section Calls

variable {P : Platform} {cx : CallContext} {s t : Storage}

inductive Phase (now : U64) (mode : U8) (s : Storage) : Storage → Prop
  | setup : mode = setup → now.val < s.deadline.val → s.settled = false → Phase now mode s s
  | settle : mode = settle → now.val < s.deadline.val → s.settled = false →
    Phase now mode s { s with settled := true }
  | refund : mode ≠ setup → mode ≠ settle → s.deadline.val ≤ now.val → Phase now mode s s

theorem phase_of_returns {u : Unit} (h : Returns (enforcePhase cx mode) s u t) :
    Phase cx.blockTimestamp mode s t := by
  rw [enforcePhase, returns_get_bind, returns_ite] at h
  rcases h with ⟨hmode, h⟩ | ⟨hmode, h⟩
  · rw [returns_assert_bind, returns_assert_bind, returns_ite] at h
    obtain ⟨htime, hsettled, ⟨hsettle, hset⟩ | ⟨hsettle, hpure⟩⟩ := h
    · cases hset
      exact .settle hsettle htime hsettled
    · obtain ⟨_, rfl⟩ := returns_pure.mp hpure
      exact .setup (hmode.resolve_right hsettle) htime hsettled
  · obtain ⟨htime, rfl⟩ := returns_assert.mp h
    exact .refund (fun h' => hmode (Or.inl h')) (fun h' => hmode (Or.inr h')) htime

theorem phase_of_invoke {tag : Felt} {out : List OpenNoteDeposit}
    (h : Returns (privacyInvokeWithComputation cx tag mode) s out t) :
    Phase cx.blockTimestamp mode s t := by
  simp only [privacyInvokeWithComputation, returns_get_bind, returns_assert_bind,
    returns_lift_bind] at h
  obtain ⟨_, _, _, _, _, h⟩ := h
  obtain ⟨_, u, hphase, hpure⟩ := returns_bind.mp h
  obtain ⟨_, rfl⟩ := returns_pure.mp hpure
  exact phase_of_returns hphase

/-- A signature is only found valid by the check of the account itself. -/
theorem validated_of_returns (h : Returns (respond P cx request) s (.validity validated) t) :
    ∃ call auth b, request = .isCustomSignatureValid [call] [] (Authorisation.encode auth) ∧
      Accepts P cx s call auth b := by
  cases request with
  | isValidSignature hash signature =>
    rw [respond, returns_pure] at h
    exact absurd (Response.validity.inj h.1 : validated = 0) (by decide)
  | isCustomSignatureValid calls additionalData signature =>
    simp only [respond, returns_get_bind, returns_lift_bind, returns_pure,
      isCustomSignatureValid_ok_iff] at h
    obtain ⟨_, ⟨_, rfl, call, auth, b, rfl, rfl, haccepts⟩, _⟩ := h
    exact ⟨call, auth, b, rfl, haccepts⟩
  | privacyCompute identityKey privateViewkey mode =>
    simp only [respond, returns_lift_bind, returns_pure] at h
    obtain ⟨_, _, hresponse, _⟩ := h
    cases hresponse
  | privacyInvokeWithComputation tag mode =>
    simp only [respond, returns_bind, returns_pure] at h
    obtain ⟨_, _, _, hresponse, _⟩ := h
    cases hresponse

/-- Only the callback writes. -/
theorem phase_of_respond (h : Returns (respond P cx request) s response t) :
    (Receipt.executed ⟨cx.blockTimestamp, request, response⟩ = none ∧ t = s) ∨
      ∃ mode, Receipt.executed ⟨cx.blockTimestamp, request, response⟩ = some mode ∧
        Phase cx.blockTimestamp mode s t := by
  cases request with
  | isValidSignature hash signature => exact Or.inl ⟨rfl, (returns_pure.mp h).2⟩
  | isCustomSignatureValid calls additionalData signature =>
    simp only [respond, returns_get_bind, returns_lift_bind, returns_pure] at h
    obtain ⟨_, _, _, rfl⟩ := h
    exact Or.inl ⟨rfl, rfl⟩
  | privacyCompute identityKey privateViewkey mode =>
    simp only [respond, returns_lift_bind, returns_pure] at h
    obtain ⟨_, _, _, rfl⟩ := h
    exact Or.inl ⟨rfl, rfl⟩
  | privacyInvokeWithComputation tag mode =>
    simp only [respond, returns_bind, returns_pure] at h
    obtain ⟨_, _, hinvoke, _, rfl⟩ := h
    exact Or.inr ⟨mode, rfl, phase_of_invoke hinvoke⟩

end Calls

/-! ## Who must have signed -/

/-- Every note that is spent or written is of `token`, and what is written belongs to `party`. -/
def OnlyFor (token party : ContractAddress) (b : Bundle) : Prop :=
  ∀ a ∈ b.actions.val, (∀ t, a.Spends t → t = into token) ∧
    ∀ t r, a.Sends t r → t = into token ∧ r = into party

/-- What each party can do alone, and what needs both. -/
structure Guarded (P : Platform) (s : Storage) (auth : Authorisation) (calldata : List Felt)
    (b : Bundle) : Prop where
  refundA : auth.mode = refundA → OnlyFor auth.terms.tokenA auth.terms.partyA b
  refundB : auth.mode = refundB → OnlyFor auth.terms.tokenB auth.terms.partyB b
  onlyA : ¬ SignedByB P s auth calldata →
    auth.mode = App20.Confidential.refundA ∧ SignedByA P s auth calldata
  onlyB : ¬ SignedByA P s auth calldata →
    auth.mode = App20.Confidential.refundB ∧ SignedByB P s auth calldata
  covered : ∀ a ∈ b.actions.val, ∀ token recipient, a.Sends token recipient →
    (token = into auth.terms.tokenA ∧ recipient ≠ into auth.terms.partyA) ∨
      (token = into auth.terms.tokenB ∧ recipient ≠ into auth.terms.partyB) →
    SignedByA P s auth calldata ∧ SignedByB P s auth calldata

theorem tokenAllowed_refundA (h : TokenAllowed terms refundA token) : token = into terms.tokenA :=
  h.elim (·.1) fun h' => absurd rfl h'.2

theorem tokenAllowed_refundB (h : TokenAllowed terms refundB token) : token = into terms.tokenB :=
  h.elim (fun h' => absurd rfl h'.2) (·.1)

theorem outputAllowed_refundA {self : ContractAddress} {recipient : Felt}
    (h : OutputAllowed self refundA terms recipient token) : recipient = into terms.partyA := by
  rw [OutputAllowed, if_neg (by decide)] at h
  rcases h with h | h | h
  · exact h.1
  · exact absurd rfl h.2
  · exact absurd h.1 (by decide)

theorem outputAllowed_refundB {self : ContractAddress} {recipient : Felt}
    (h : OutputAllowed self refundB terms recipient token) : recipient = into terms.partyB := by
  rw [OutputAllowed, if_neg (by decide)] at h
  rcases h with h | h | h
  · exact absurd rfl h.2
  · exact h.1
  · exact absurd h.1 (by decide)

section Guards

variable {P : Platform} {cx : CallContext} {s : Storage} {call : Call} {auth : Authorisation}
  {b : Bundle}

section

variable (h : Accepts P cx s call auth b)

include h

theorem Accepts.refundA (hmode : auth.mode = refundA) :
    OnlyFor auth.terms.tokenA auth.terms.partyA b := by
  have hadmitted := h.admitted
  rw [hmode] at hadmitted
  refine fun a ha => ⟨fun t hspends => ?_, fun t r hsends => ?_⟩
  · exact tokenAllowed_refundA (hadmitted.spends ha hspends).2
  · obtain ⟨_, htoken, houtput⟩ := hadmitted.sends ha hsends
    exact ⟨tokenAllowed_refundA htoken, outputAllowed_refundA houtput⟩

theorem Accepts.refundB (hmode : auth.mode = refundB) :
    OnlyFor auth.terms.tokenB auth.terms.partyB b := by
  have hadmitted := h.admitted
  rw [hmode] at hadmitted
  refine fun a ha => ⟨fun t hspends => ?_, fun t r hsends => ?_⟩
  · exact tokenAllowed_refundB (hadmitted.spends ha hspends).2
  · obtain ⟨_, htoken, houtput⟩ := hadmitted.sends ha hsends
    exact ⟨tokenAllowed_refundB htoken, outputAllowed_refundB houtput⟩

theorem Accepts.onlyA (hB : ¬ SignedByB P s auth call.calldata) :
    auth.mode = App20.Confidential.refundA ∧ SignedByA P s auth call.calldata := by
  have hmode : auth.mode = App20.Confidential.refundA :=
    Classical.byContradiction fun hmode => hB (h.signedByB hmode)
  exact ⟨hmode, h.signedByA (by rw [hmode]; decide)⟩

theorem Accepts.onlyB (hA : ¬ SignedByA P s auth call.calldata) :
    auth.mode = App20.Confidential.refundB ∧ SignedByB P s auth call.calldata := by
  have hmode : auth.mode = App20.Confidential.refundB :=
    Classical.byContradiction fun hmode => hA (h.signedByA hmode)
  exact ⟨hmode, h.signedByB (by rw [hmode]; decide)⟩

/-- A party that signs alone pays nobody but itself, and only with its own token. -/
theorem Accepts.guarded : Guarded P s auth call.calldata b := by
  refine ⟨h.refundA, h.refundB, h.onlyA, h.onlyB, fun a ha token recipient hsends hother => ?_⟩
  have htokens : ∀ {t : Felt}, t = into auth.terms.tokenA → t ≠ into auth.terms.tokenB :=
    fun hA hB => h.agreed.tokens (into_injective.mp (hA.symm.trans hB))
  refine ⟨h.signedByA fun hmode => ?_, h.signedByB fun hmode => ?_⟩
  · obtain ⟨htoken, hrecipient⟩ := (h.refundB hmode a ha).2 token recipient hsends
    exact hother.elim (fun h' => htokens h'.1 htoken) fun h' => h'.2 hrecipient
  · obtain ⟨htoken, hrecipient⟩ := (h.refundA hmode a ha).2 token recipient hsends
    exact hother.elim (fun h' => h'.2 hrecipient) fun h' => htokens htoken h'.1

end

end Guards

/-! ## Runs -/

/-- Nothing is settled after a settlement or a refund. -/
def Follows (r r' : Receipt) : Prop :=
  r.executed = some settle ∨ r.executed = some refundA ∨ r.executed = some refundB →
    r'.executed ≠ some setup ∧ r'.executed ≠ some settle

/-- What a receipt shows in the state `t`, where `s` is the storage before the run. -/
structure Lawful (P : Platform) (s : Storage) (t : Sys) (r : Receipt) : Prop where
  early : r.executed = some setup ∨ r.executed = some settle →
    r.time.val < s.deadline.val ∧ s.settled = false
  settled : r.executed = some settle → t.storage.settled = true
  late : r.executed = some refundA ∨ r.executed = some refundB → s.deadline.val ≤ t.now.val
  guarded : r.response = .validity validated → ∃ call auth b,
    r.request = .isCustomSignatureValid [call] [] (Authorisation.encode auth) ∧
      call.calldata = Bundle.encode P.contractAddress b ∧ Guarded P s auth call.calldata b

/-- The invariant of a run from the storage `s`. Only the settlement is ever written. -/
structure Custody (P : Platform) (s : Storage) (t : Sys) : Prop where
  storage : t.storage = { s with settled := t.storage.settled }
  kept : s.settled = true → t.storage.settled = true
  lawful : ∀ r ∈ t.receipts, Lawful P s t r
  order : t.receipts.Pairwise Follows

section Runs

variable {P : Platform} {s : Storage} {t : Sys}

theorem Lawful.mono {t' : Sys} (h : Lawful P s t r) (hnow : t.now.val ≤ t'.now.val)
    (hsettled : t.storage.settled = true → t'.storage.settled = true) : Lawful P s t' r :=
  ⟨h.early, fun h' => hsettled (h.settled h'), fun h' => (h.late h').trans hnow, h.guarded⟩

theorem custody_initial (now : U64) : Custody P s ⟨s, now, []⟩ :=
  ⟨rfl, id, fun _ hr => absurd hr List.not_mem_nil, List.Pairwise.nil⟩

theorem Custody.advance (h : Custody P s t) {time : U64} (htime : t.now.val ≤ time.val) :
    Custody P s { t with now := time } :=
  ⟨h.storage, h.kept, fun r hr => (h.lawful r hr).mono htime id, h.order⟩

theorem phase_settled (h : Phase now mode u v) :
    v = { u with settled := v.settled } ∧ (u.settled = true → v.settled = true) := by
  cases h with
  | setup | refund => exact ⟨rfl, id⟩
  | settle => exact ⟨rfl, fun _ => rfl⟩

theorem phase_early (h : Phase now mode u v) (hmode : mode = setup ∨ mode = settle) :
    now.val < u.deadline.val ∧ u.settled = false := by
  cases h with
  | setup _ htime hsettled | settle _ htime hsettled => exact ⟨htime, hsettled⟩
  | refund hsetup hsettle => exact (hmode.elim hsetup hsettle).elim

theorem phase_settles (h : Phase now mode u v) (hmode : mode = settle) : v.settled = true := by
  cases h with
  | setup hsetup => exact absurd (hsetup.symm.trans hmode) (by decide)
  | settle => rfl
  | refund _ hsettle => exact absurd hmode hsettle

theorem phase_late (h : Phase now mode u v) (hmode : mode = refundA ∨ mode = refundB) :
    u.deadline.val ≤ now.val := by
  cases h with
  | refund _ _ htime => exact htime
  | setup heq | settle heq =>
    subst heq
    exact absurd hmode (by decide)

theorem Lawful.follows {r' : Receipt} (h : Lawful P s t r)
    (hdeadline : t.storage.deadline = s.deadline) (hexecuted : r'.executed = some mode)
    (hphase : Phase t.now mode t.storage u) : Follows r r' := by
  intro hr
  have hclosed : t.storage.settled = true ∨ t.storage.deadline.val ≤ t.now.val := by
    rcases hr with hr | hr
    · exact Or.inl (h.settled hr)
    · exact Or.inr (hdeadline ▸ h.late hr)
  rw [hexecuted]
  cases hphase with
  | setup _ htime hsettled | settle _ htime hsettled =>
    rw [hsettled] at hclosed
    rcases hclosed with hclosed | hclosed
    · cases hclosed
    · omega
  | refund hsetup hsettle =>
    exact ⟨fun heq => hsetup (Option.some.inj heq), fun heq => hsettle (Option.some.inj heq)⟩

theorem guarded_of_returns (h : Custody P s t) {cx : CallContext}
    (hret : Returns (respond P cx request) t.storage response u)
    (hresponse : response = .validity validated) :
    ∃ call auth b, request = .isCustomSignatureValid [call] [] (Authorisation.encode auth) ∧
      call.calldata = Bundle.encode P.contractAddress b ∧ Guarded P s auth call.calldata b := by
  subst hresponse
  obtain ⟨call, auth, b, hrequest, haccepts⟩ := validated_of_returns hret
  rw [h.storage] at haccepts
  obtain ⟨hrefundA, hrefundB, honlyA, honlyB, hcovered⟩ := haccepts.guarded
  exact ⟨call, auth, b, hrequest, haccepts.calldata, hrefundA, hrefundB, honlyA, honlyB, hcovered⟩

/-- The receipt of a call, when the storage is at most settled and the callback was executed in
its phase. -/
theorem Custody.append (h : Custody P s t) (hstorage : u = { t.storage with settled := u.settled })
    (hkept : t.storage.settled = true → u.settled = true)
    (hlawful : Lawful P s ⟨u, t.now, t.receipts ++ [r]⟩ r)
    (hfollows : ∀ r' ∈ t.receipts, Follows r' r) : Custody P s ⟨u, t.now, t.receipts ++ [r]⟩ := by
  refine ⟨?_, fun hs => hkept (h.kept hs), fun r' hr' => ?_, ?_⟩
  · dsimp only
    rw [hstorage, h.storage]
  · rcases List.mem_append.mp hr' with hr' | hr'
    · exact (h.lawful r' hr').mono le_rfl hkept
    · rw [List.mem_singleton.mp hr']
      exact hlawful
  · refine List.pairwise_append.mpr ⟨h.order, List.pairwise_singleton _ _, fun r' hr' r'' hr'' => ?_⟩
    rw [List.mem_singleton.mp hr'']
    exact hfollows r' hr'

theorem Custody.call (h : Custody P s t) {caller : ContractAddress}
    {classHashAt : ContractAddress → Option Felt}
    (hret : Returns (respond P ⟨caller, t.now, classHashAt⟩ request) t.storage response u) :
    Custody P s ⟨u, t.now, t.receipts ++ [⟨t.now, request, response⟩]⟩ := by
  have hguarded := guarded_of_returns h hret
  have hdeadline : t.storage.deadline = s.deadline := by rw [h.storage]
  rcases phase_of_respond hret with ⟨hexecuted, rfl⟩ | ⟨mode, hexecuted, hphase⟩
  · dsimp only at hexecuted
    refine h.append rfl id ⟨?_, ?_, ?_, hguarded⟩ fun r' _ _ => ?_ <;>
    · rw [hexecuted]
      simp
  · dsimp only at hexecuted hphase
    obtain ⟨hstorage, hkept⟩ := phase_settled hphase
    refine h.append hstorage hkept ⟨?_, ?_, ?_, hguarded⟩ fun r' hr' =>
      (h.lawful r' hr').follows hdeadline hexecuted hphase
    all_goals
      rw [hexecuted]
      simp only [Option.some.injEq]
      intro hmode
    · obtain ⟨htime, hsettled⟩ := phase_early hphase hmode
      refine ⟨hdeadline ▸ htime, Bool.eq_false_iff.mpr fun hs => ?_⟩
      rw [h.kept hs] at hsettled
      cases hsettled
    · exact phase_settles hphase hmode
    · exact hdeadline ▸ phase_late hphase hmode

theorem custody_run (h : Custody P s t) (events : List Event) :
    Custody P s (run (step P) t events) := by
  refine run_invariant (fun t e h => ?_) events h
  cases e with
  | advance time =>
    unfold step
    dsimp only
    split
    · exact h.advance ‹_›
    · exact h
  | call caller classHashAt request =>
    unfold step
    dsimp only
    split
    · next response u hret => exact h.call hret
    · exact h

theorem length_filter_le_one {p : Receipt → Bool} {rs : List Receipt}
    (h : rs.Pairwise fun r r' => p r = true → p r' = false) : (rs.filter p).length ≤ 1 := by
  induction h with
  | nil => exact Nat.zero_le _
  | cons hr _ ih =>
    rw [List.filter_cons]
    split
    · next hp =>
      rw [List.filter_eq_nil_iff.mpr fun r' hr' => by rw [hr r' hr' hp]; exact Bool.false_ne_true]
      exact le_rfl
    · exact ih

end Runs

/-- In every run, a bundle that was let pass on one party's signature spends only that party's
token and pays only that party, and everything else was signed by both. There is at most one
settlement, before the deadline, and nothing is set up or settled after it or after a refund. -/
theorem escrow_custody (P : Platform) (s : Storage) (now : U64) (events : List Event) :
    (∀ r ∈ (run (step P) ⟨s, now, []⟩ events).receipts, r.response = .validity validated →
      ∃ call auth b, r.request = .isCustomSignatureValid [call] [] (Authorisation.encode auth) ∧
        call.calldata = Bundle.encode P.contractAddress b ∧ Guarded P s auth call.calldata b) ∧
      ((run (step P) ⟨s, now, []⟩ events).receipts.filter
        fun r => r.executed = some settle).length ≤ 1 ∧
      (∀ r ∈ (run (step P) ⟨s, now, []⟩ events).receipts,
        r.executed = some setup ∨ r.executed = some settle →
          r.time.val < s.deadline.val ∧ s.settled = false) ∧
      (run (step P) ⟨s, now, []⟩ events).receipts.Pairwise Follows := by
  have h := custody_run (P := P) (s := s) (custody_initial now) events
  refine ⟨fun r hr => (h.lawful r hr).guarded, ?_, fun r hr => (h.lawful r hr).early, h.order⟩
  refine length_filter_le_one (h.order.imp fun hfollows hsettle => ?_)
  rw [decide_eq_true_eq] at hsettle
  exact decide_eq_false (hfollows (Or.inl hsettle)).2

/-- The settlement of the fixture is validated and executed once, and not again after it. -/
example :
    (run (step Fixture.platform) ⟨Fixture.storage, 100, []⟩
      [.call 0x200 (fun _ => some 0x67) (.isCustomSignatureValid [Fixture.call Fixture.settlement] []
          (Fixture.authorise settle Fixture.settlement).encode),
        .call 0x200 (fun _ => some 0x67) (.privacyInvokeWithComputation computeTag settle),
        .call 0x200 (fun _ => some 0x67) (.privacyInvokeWithComputation computeTag settle)]).receipts.map
          (fun r => (r.response, r.executed)) =
      [(.validity validated, none), (.deposits [], some settle)] := by
  decide +kernel

end App20.Confidential
