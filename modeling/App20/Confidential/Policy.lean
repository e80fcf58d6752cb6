import App20.Confidential.Checker

/-!
# The policy that the checker decides

A bundle is `Admitted` in a mode when it is a list of permitted actions behind which the
callback stands, and what it pays is what the terms say. `checkActions_ok_iff` compares the
policy with the checker, iteration by iteration (`returns_checkAction`).
-/

namespace App20.Confidential

open App20.Lib App20.Lib.Exec App20.Starknet

/-! ## What an action moves -/

namespace Action

def output : Action → Nat
  | .createEncNote _ _ _ amount _ _ => amount.val
  | _ => 0

/-- The value of `token` that the action sends to a note of `recipient`. -/
def sent (token recipient : ContractAddress) : Action → Nat
  | .createEncNote r _ t amount _ _ =>
    if t = into token ∧ r = into recipient then amount.val else 0
  | _ => 0

def isInput : Action → Bool
  | .useNote .. => true
  | _ => false

/-- The action sends value of `token` to `recipient`, which both are felts on the wire. -/
inductive Sends (token recipient : Felt) : Action → Prop
  | intro (x : Felt) (amount : U128) (y z : Felt) :
    Sends token recipient (.createEncNote recipient x token amount y z)

/-- The action spends a note of `token`. -/
inductive Spends (token : Felt) : Action → Prop
  | intro (x y : Felt) : Spends token (.useNote x token y)

end Action

/-! ## Permitted actions -/

def OutputAllowed (self : ContractAddress) (mode : U8) (terms : Terms) (recipient token : Felt) :
    Prop :=
  if mode = settle then
    (token = into terms.tokenA ∧ recipient = into terms.partyB) ∨
      (token = into terms.tokenB ∧ recipient = into terms.partyA) ∨ IsChange terms recipient token
  else RecipientAllowed self terms mode recipient

/-- The actions that may stand before the callback. -/
def Permitted (self : ContractAddress) (mode : U8) (terms : Terms) : Action → Prop
  | .setViewingKey _ => mode = setup
  | .openChannel recipient _ _ _ => RecipientAllowed self terms mode recipient
  | .openSubchannel recipient _ _ _ token _ =>
    RecipientAllowed self terms mode recipient ∧ TokenAllowed terms mode token
  | .createEncNote recipient _ token _ _ _ =>
    mode ≠ setup ∧ TokenAllowed terms mode token ∧ OutputAllowed self mode terms recipient token
  | .useNote _ token _ => mode ≠ setup ∧ TokenAllowed terms mode token
  | _ => False

/-- The action that ends every bundle. -/
def callback (self : ContractAddress) (viewingKey : Felt) (mode : U8) : Action :=
  .computeAndInvoke (into self) ⟨[viewingKey, into mode], by simp⟩ ⟨[], by decide⟩

/-- How the accumulators change over a permitted action. -/
structure Records (mode : U8) (terms : Terms) (p : Progress) (a : Action) (q : Progress) :
    Prop where
  callback : q.callback = p.callback
  tradedA : q.tradedA.val = p.tradedA.val +
    if mode = settle then a.sent terms.tokenA terms.partyB else 0
  tradedB : q.tradedB.val = p.tradedB.val +
    if mode = settle then a.sent terms.tokenB terms.partyA else 0
  refunded : q.refunded.val = p.refunded.val + if mode = settle then 0 else a.output
  used : q.used = (p.used || a.isInput)

/-- What one iteration of the loop does with the action it reads. -/
def Step (self : ContractAddress) (mode : U8) (terms : Terms) (viewingKey : Felt) (count : Nat)
    (p : Progress) (i : Nat) (a : Action) (q : Progress) : Prop :=
  (Permitted self mode terms a ∧ Records mode terms p a q) ∨
    (a = callback self viewingKey mode ∧ i + 1 = count ∧ p.callback = false ∧
      q = { p with callback := true })

/-! ## One iteration -/

variable {a : Action} {data : List Felt} {as before : List Action}

section Iteration

variable {self : ContractAddress} {mode : U8} {terms : Terms} {viewingKey : Felt} {count : Nat}

theorem eq_lengthFelt {k : Felt} {n : Nat} (h : k.val = n) (hn : n < 2 ^ 32) : k = lengthFelt n :=
  Fin.ext (h.trans (lengthFelt_val hn).symm)

/-- The accumulators after an iteration are determined by those before it. -/
theorem Records.unique {p q q' : Progress} (h : Records mode terms p a q)
    (h' : Records mode terms p a q') : q = q' := by
  cases q
  cases q'
  simp only [Progress.mk.injEq, Fin.ext_iff]
  exact ⟨h.callback.trans h'.callback.symm, h.tradedA.trans h'.tradedA.symm,
    h.tradedB.trans h'.tradedB.symm, h.refunded.trans h'.refunded.symm, h.used.trans h'.used.symm⟩

/-- An action that moves nothing leaves the accumulators alone. -/
theorem Records.idle {p q : Progress} (hsent : ∀ t r, a.sent t r = 0) (houtput : a.output = 0)
    (hinput : a.isInput = false) : Records mode terms p a q ↔ q = p := by
  have hself : Records mode terms p a p := by
    constructor <;> simp [hsent, houtput, hinput]
  exact ⟨fun h => h.unique hself, fun h => h ▸ hself⟩

theorem into_injective {n m : Nat} {h : n ≤ m} {a b : Fin n} :
    (into a h : Fin m) = into b h ↔ a = b := by
  simp only [Fin.ext_iff, into_val]

/-- The two payments differ in their token. -/
theorem not_both {recipient token : Felt} (hterms : terms.tokenA ≠ terms.tokenB)
    (h : token = into terms.tokenA) : ¬ (token = into terms.tokenB ∧ recipient = into terms.partyA) :=
  fun h' => hterms (into_injective.mp (h.symm.trans h'.1))

theorem returns_add {v amount : U128} {f : U128 → Progress} {p q : Progress} {rest : List Felt}
    (hfits : ∀ r, Records mode terms p a r → ∃ w : U128, w.val = v.val + amount.val)
    (hrec : ∀ w : U128, w.val = v.val + amount.val → Records mode terms p a (f w)) :
    Returns (expect (checkedAdd v amount) .overflow >>= fun w => pure (f w) : ActionReader _)
      data q rest ↔ Records mode terms p a q ∧ rest = data := by
  simp only [returns_expect_bind, checkedAdd_eq_some, returns_pure]
  constructor
  · rintro ⟨w, hw, rfl, rfl⟩
    exact ⟨hrec w hw, rfl⟩
  · rintro ⟨h, rfl⟩
    obtain ⟨w, hw⟩ := hfits q h
    exact ⟨w, hw, h.unique (hrec w hw), rfl⟩

theorem returns_recordOutput (hterms : terms.tokenA ≠ terms.tokenB) {recipient token : Felt}
    {amount : U128} {p q : Progress} {rest : List Felt} (x y z : Felt) :
    Returns (recordOutput self mode terms recipient token amount p) data q rest ↔
      OutputAllowed self mode terms recipient token ∧
        Records mode terms p (.createEncNote recipient x token amount y z) q ∧ rest = data := by
  have hinput : (Action.createEncNote recipient x token amount y z).isInput = false := rfl
  unfold recordOutput OutputAllowed
  by_cases hmode : mode = settle
  · rw [if_pos hmode, if_pos hmode]
    by_cases hA : token = into terms.tokenA ∧ recipient = into terms.partyB
    · have hsentA : (Action.createEncNote recipient x token amount y z).sent
          terms.tokenA terms.partyB = amount.val := if_pos hA
      have hsentB : (Action.createEncNote recipient x token amount y z).sent
          terms.tokenB terms.partyA = 0 := if_neg (not_both hterms hA.1)
      rw [if_pos hA, returns_add (a := .createEncNote recipient x token amount y z)
        (fun r h => ⟨r.tradedA, by rw [h.tradedA, if_pos hmode, hsentA]⟩)
        (fun w hw => by constructor <;> simp [hmode, hw, hinput, hsentA, hsentB])]
      exact ⟨fun h => ⟨Or.inl hA, h⟩, fun h => h.2⟩
    · have hsentA : (Action.createEncNote recipient x token amount y z).sent
          terms.tokenA terms.partyB = 0 := if_neg hA
      rw [if_neg hA]
      by_cases hB : token = into terms.tokenB ∧ recipient = into terms.partyA
      · have hsentB : (Action.createEncNote recipient x token amount y z).sent
            terms.tokenB terms.partyA = amount.val := if_pos hB
        rw [if_pos hB, returns_add (a := .createEncNote recipient x token amount y z)
          (fun r h => ⟨r.tradedB, by rw [h.tradedB, if_pos hmode, hsentB]⟩)
          (fun w hw => by constructor <;> simp [hmode, hw, hinput, hsentA, hsentB])]
        exact ⟨fun h => ⟨Or.inr (Or.inl hB), h⟩, fun h => h.2⟩
      · have hsentB : (Action.createEncNote recipient x token amount y z).sent
            terms.tokenB terms.partyA = 0 := if_neg hB
        have hrec : Records mode terms p (.createEncNote recipient x token amount y z) p := by
          constructor <;> simp [hmode, hinput, hsentA, hsentB]
        rw [if_neg hB]
        simp only [returns_assert_bind, returns_pure]
        constructor
        · rintro ⟨hchange, rfl, rfl⟩
          exact ⟨Or.inr (Or.inr hchange), hrec, rfl⟩
        · rintro ⟨hallowed, h, rfl⟩
          exact ⟨(hallowed.resolve_left hA).resolve_left hB, h.unique hrec, rfl⟩
  · have houtput : (Action.createEncNote recipient x token amount y z).output = amount.val := rfl
    rw [if_neg hmode, if_neg hmode, recipientAllowed, returns_assert_bind,
      returns_add (a := .createEncNote recipient x token amount y z)
        (fun r (h : Records mode terms p _ r) => ⟨r.refunded, by rw [h.refunded, if_neg hmode, houtput]⟩)
        (fun w hw => by constructor <;> simp [hmode, hw, hinput, houtput])]

theorem step_iff_permitted {p q : Progress} {i : Nat} (h : a.kind ≠ 9) :
    Step self mode terms viewingKey count p i a q ↔
      Permitted self mode terms a ∧ Records mode terms p a q := by
  refine ⟨fun hstep => hstep.resolve_right ?_, Or.inl⟩
  rintro ⟨rfl, _⟩
  exact h rfl

variable {p q : Progress} {i : Nat} {tail rest : List Felt}

def admittedKinds : List Nat := [0, 1, 2, 3, 6, 9]

/-- What an iteration does with the actions of a kind. -/
def Reads (self : ContractAddress) (mode : U8) (terms : Terms) (viewingKey : Felt) (count : Nat)
    (p : Progress) (i kind : Nat) : Prop :=
  ∀ tail q rest, Returns (checkAction self mode terms viewingKey count p i)
    (lengthFelt kind :: tail) q rest ↔ ∃ a : Action, a.kind = kind ∧ tail = a.body ++ rest ∧
        Step self mode terms viewingKey count p i a q

theorem reads_setViewingKey : Reads self mode terms viewingKey count p i 0 := by
  intro tail q rest
  have hval : (lengthFelt 0).val = 0 := rfl
  rw [checkAction, take, Reader.returns_take_cons_bind]
  simp only [hval, skip, returns_assert_bind, Reader.returns_skip_succ_bind,
    Reader.returns_skip_zero_bind, returns_pure]
  constructor
  · rintro ⟨hmode, x, _, rfl, rfl, rfl⟩
    exact ⟨.setViewingKey x, rfl, rfl, Or.inl ⟨hmode,
      (Records.idle (fun _ _ => rfl) rfl rfl).mpr rfl⟩⟩
  · rintro ⟨a, hkind, rfl, hstep⟩
    obtain ⟨hmode, hrecords⟩ := (step_iff_permitted (by omega)).mp hstep
    cases a <;> simp [Action.kind] at hkind
    obtain rfl := (Records.idle (fun _ _ => rfl) rfl rfl).mp hrecords
    exact ⟨hmode, _, _, rfl, rfl, rfl⟩

theorem reads_openChannel : Reads self mode terms viewingKey count p i 1 := by
  intro tail q rest
  have hval : (lengthFelt 1).val = 1 := rfl
  rw [checkAction, take, Reader.returns_take_cons_bind]
  simp only [hval, skip, recipientAllowed, returns_assert_bind, Reader.returns_take_bind,
    Reader.returns_skip_succ_bind, Reader.returns_skip_zero_bind, returns_pure]
  constructor
  · rintro ⟨recipient, _, rfl, hallowed, x, _, rfl, y, _, rfl, z, _, rfl, rfl, rfl⟩
    exact ⟨.openChannel recipient x y z, rfl, rfl, Or.inl ⟨hallowed,
      (Records.idle (fun _ _ => rfl) rfl rfl).mpr rfl⟩⟩
  · rintro ⟨a, hkind, rfl, hstep⟩
    obtain ⟨hallowed, hrecords⟩ := (step_iff_permitted (by omega)).mp hstep
    cases a <;> simp [Action.kind] at hkind
    obtain rfl := (Records.idle (fun _ _ => rfl) rfl rfl).mp hrecords
    exact ⟨_, _, rfl, hallowed, _, _, rfl, _, _, rfl, _, _, rfl, rfl, rfl⟩

theorem reads_openSubchannel : Reads self mode terms viewingKey count p i 2 := by
  intro tail q rest
  have hval : (lengthFelt 2).val = 2 := rfl
  rw [checkAction, take, Reader.returns_take_cons_bind]
  simp only [hval, skip, recipientAllowed, tokenAllowed, returns_assert_bind,
    Reader.returns_take_bind, Reader.returns_skip_succ_bind, Reader.returns_skip_zero_bind,
    returns_pure]
  constructor
  · rintro ⟨recipient, _, rfl, hrecipient, x, _, rfl, y, _, rfl, z, _, rfl, token, _, rfl,
      htoken, w, _, rfl, rfl, rfl⟩
    exact ⟨.openSubchannel recipient x y z token w, rfl, rfl, Or.inl ⟨⟨hrecipient, htoken⟩,
      (Records.idle (fun _ _ => rfl) rfl rfl).mpr rfl⟩⟩
  · rintro ⟨a, hkind, rfl, hstep⟩
    obtain ⟨hallowed, hrecords⟩ := (step_iff_permitted (by omega)).mp hstep
    cases a <;> simp [Action.kind] at hkind
    obtain rfl := (Records.idle (fun _ _ => rfl) rfl rfl).mp hrecords
    exact ⟨_, _, rfl, hallowed.1, _, _, rfl, _, _, rfl, _, _, rfl, _, _, rfl, hallowed.2, _, _,
      rfl, rfl, rfl⟩

theorem reads_createEncNote (hterms : terms.tokenA ≠ terms.tokenB) :
    Reads self mode terms viewingKey count p i 3 := by
  intro tail q rest
  have hval : (lengthFelt 3).val = 3 := rfl
  rw [checkAction, take, Reader.returns_take_cons_bind]
  simp only [hval, skip, tokenAllowed, returns_assert_bind, returns_expect_bind,
    Reader.returns_take_bind, Reader.returns_skip_succ_bind, Reader.returns_skip_zero_bind]
  constructor
  · rintro ⟨hmode, recipient, _, rfl, x, _, rfl, token, _, rfl, htoken, felt, _, rfl, amount,
      hamount, y, _, rfl, z, _, rfl, h⟩
    obtain ⟨houtput, hrecords, rfl⟩ := (returns_recordOutput hterms x y z).mp h
    obtain rfl : felt = into amount := Fin.ext (tryInto_eq_some.mp hamount).symm
    exact ⟨.createEncNote recipient x token amount y z, rfl, rfl,
      Or.inl ⟨⟨hmode, htoken, houtput⟩, hrecords⟩⟩
  · rintro ⟨a, hkind, rfl, hstep⟩
    obtain ⟨hallowed, hrecords⟩ := (step_iff_permitted (by omega)).mp hstep
    cases a <;> simp [Action.kind] at hkind
    next recipient x token amount y z =>
    exact ⟨hallowed.1, _, _, rfl, _, _, rfl, _, _, rfl, hallowed.2.1, _, _, rfl, amount,
      tryInto_into, _, _, rfl, _, _, rfl,
      (returns_recordOutput hterms x y z).mpr ⟨hallowed.2.2, hrecords, rfl⟩⟩

theorem reads_useNote : Reads self mode terms viewingKey count p i 6 := by
  intro tail q rest
  have hval : (lengthFelt 6).val = 6 := rfl
  have hrec : ∀ x token y, Records mode terms p (.useNote x token y) { p with used := true } := by
    intro x token y
    constructor <;> simp [Action.sent, Action.output, Action.isInput]
  rw [checkAction, take, Reader.returns_take_cons_bind]
  simp only [hval, skip, tokenAllowed, returns_assert_bind, Reader.returns_take_bind,
    Reader.returns_skip_succ_bind, Reader.returns_skip_zero_bind, returns_pure]
  constructor
  · rintro ⟨hmode, x, _, rfl, token, _, rfl, htoken, y, _, rfl, rfl, rfl⟩
    exact ⟨.useNote x token y, rfl, rfl, Or.inl ⟨⟨hmode, htoken⟩, hrec x token y⟩⟩
  · rintro ⟨a, hkind, rfl, hstep⟩
    obtain ⟨hallowed, hrecords⟩ := (step_iff_permitted (by omega)).mp hstep
    cases a <;> simp [Action.kind] at hkind
    exact ⟨hallowed.1, _, _, rfl, _, _, rfl, hallowed.2, _, _, rfl,
      hrecords.unique (hrec _ _ _), rfl⟩

theorem reads_computeAndInvoke : Reads self mode terms viewingKey count p i 9 := by
  intro tail q rest
  have hval : (lengthFelt 9).val = 9 := rfl
  rw [checkAction, take, Reader.returns_take_cons_bind]
  simp only [hval, returns_assert_bind, Reader.returns_take_bind, returns_pure]
  constructor
  · rintro ⟨⟨hlast, hcallback⟩, _, _, rfl, rfl, _, _, rfl, rfl, _, _, rfl, rfl, _, _, rfl, rfl,
      _, _, rfl, rfl, rfl, rfl⟩
    exact ⟨callback self _ mode, rfl, rfl, Or.inr ⟨rfl, hlast, hcallback, rfl⟩⟩
  · rintro ⟨a, hkind, rfl, ⟨hpermitted, _⟩ | ⟨rfl, hlast, hcallback, rfl⟩⟩
    · cases a <;> simp [Action.kind] at hkind
      exact hpermitted.elim
    · exact ⟨⟨hlast, hcallback⟩, _, _, rfl, rfl, _, _, rfl, rfl, _, _, rfl, rfl, _, _, rfl, rfl,
        _, _, rfl, rfl, rfl, rfl⟩

theorem Permitted.kind_mem (h : Permitted self mode terms a) : a.kind ∈ admittedKinds := by
  cases a <;> first | exact h.elim | simp [Action.kind, admittedKinds]

theorem Step.kind_mem (h : Step self mode terms viewingKey count p i a q) :
    a.kind ∈ admittedKinds := by
  rcases h with ⟨hpermitted, _⟩ | ⟨rfl, _⟩
  · exact hpermitted.kind_mem
  · simp [callback, Action.kind, admittedKinds]

theorem reads_of_kind (hterms : terms.tokenA ≠ terms.tokenB) {kind : Nat}
    (h : kind ∈ admittedKinds) : Reads self mode terms viewingKey count p i kind := by
  simp only [admittedKinds, List.mem_cons, List.not_mem_nil, or_false] at h
  rcases h with rfl | rfl | rfl | rfl | rfl | rfl
  · exact reads_setViewingKey
  · exact reads_openChannel
  · exact reads_openSubchannel
  · exact reads_createEncNote hterms
  · exact reads_useNote
  · exact reads_computeAndInvoke

/-- Every other kind stops the loop. -/
theorem kind_of_returns (h : Returns (checkAction self mode terms viewingKey count p i) data q rest) :
    ∃ kind ∈ admittedKinds, ∃ tail, data = lengthFelt kind :: tail := by
  rw [checkAction, take, Reader.returns_take_bind] at h
  obtain ⟨k, tail, rfl, h⟩ := h
  have hkind : k.val ∈ admittedKinds := by
    split at h <;> first | exact absurd h not_returns_throw | simp [admittedKinds, *]
  have hlt : k.val < 2 ^ 32 := by
    simp only [admittedKinds, List.mem_cons, List.not_mem_nil, or_false] at hkind
    omega
  exact ⟨k.val, hkind, tail, by rw [← eq_lengthFelt rfl hlt]⟩

/-- One iteration reads one action of the grammar and takes the step of the policy. -/
theorem returns_checkAction (hterms : terms.tokenA ≠ terms.tokenB) :
    Returns (checkAction self mode terms viewingKey count p i) data q rest ↔
      ∃ a : Action, data = a.encode ++ rest ∧ Step self mode terms viewingKey count p i a q := by
  constructor
  · intro h
    obtain ⟨kind, hkind, tail, rfl⟩ := kind_of_returns h
    obtain ⟨a, rfl, rfl, hstep⟩ := (reads_of_kind hterms hkind tail q rest).mp h
    exact ⟨a, rfl, hstep⟩
  · rintro ⟨a, rfl, hstep⟩
    exact (reads_of_kind hterms hstep.kind_mem _ q rest).mpr ⟨a, rfl, rfl, hstep⟩

end Iteration

/-! ## The loop -/

def sumOver (f : Action → Nat) (as : List Action) : Nat := (as.map f).sum

@[simp] theorem sumOver_nil (f : Action → Nat) : sumOver f [] = 0 := rfl

@[simp] theorem sumOver_cons (f : Action → Nat) (a : Action) (as : List Action) :
    sumOver f (a :: as) = f a + sumOver f as := by
  rw [sumOver, List.map_cons, List.sum_cons, sumOver]

theorem sumOver_append (f : Action → Nat) (as bs : List Action) :
    sumOver f (as ++ bs) = sumOver f as + sumOver f bs := by
  rw [sumOver, List.map_append, List.sum_append, sumOver, sumOver]

/-- How the accumulators change over the permitted actions of a whole bundle, the callback
included. -/
structure Tallies (mode : U8) (terms : Terms) (p : Progress) (as : List Action) (q : Progress) :
    Prop where
  callback : q.callback = true
  tradedA : q.tradedA.val = p.tradedA.val +
    if mode = settle then sumOver (Action.sent terms.tokenA terms.partyB) as else 0
  tradedB : q.tradedB.val = p.tradedB.val +
    if mode = settle then sumOver (Action.sent terms.tokenB terms.partyA) as else 0
  refunded : q.refunded.val = p.refunded.val + if mode = settle then 0 else sumOver Action.output as
  used : q.used = (p.used || as.any Action.isInput)

section Loop

variable {self : ContractAddress} {mode : U8} {terms : Terms} {viewingKey : Felt} {count : Nat}

theorem Tallies.cons {p q r : Progress} (hone : Records mode terms p a r)
    (hrest : Tallies mode terms r as q) : Tallies mode terms p (a :: as) q := by
  obtain ⟨_, hA, hB, hR, hU⟩ := hone
  obtain ⟨hC, hA', hB', hR', hU'⟩ := hrest
  refine ⟨hC, ?_, ?_, ?_, ?_⟩
  · rw [hA', hA, sumOver_cons]
    split <;> omega
  · rw [hB', hB, sumOver_cons]
    split <;> omega
  · rw [hR', hR, sumOver_cons]
    split <;> omega
  · rw [hU', hU, List.any_cons, Bool.or_assoc]

/-- The totals of a list fit, so the sums after its first action do. -/
theorem Tallies.uncons {p q : Progress} (h : Tallies mode terms p (a :: as) q) :
    ∃ r, Records mode terms p a r ∧ Tallies mode terms r as q := by
  obtain ⟨hC, hA, hB, hR, hU⟩ := h
  rw [sumOver_cons] at hA hB hR
  rw [List.any_cons, ← Bool.or_assoc] at hU
  have hqA := q.tradedA.isLt
  have hqB := q.tradedB.isLt
  have hqR := q.refunded.isLt
  by_cases hmode : mode = settle
  · simp only [hmode, if_true] at hA hB hR
    refine ⟨⟨p.callback, ⟨p.tradedA.val + a.sent terms.tokenA terms.partyB, by omega⟩,
      ⟨p.tradedB.val + a.sent terms.tokenB terms.partyA, by omega⟩, p.refunded,
      p.used || a.isInput⟩, ⟨rfl, ?_, ?_, ?_, rfl⟩, ⟨hC, ?_, ?_, ?_, hU⟩⟩ <;>
      simp only [hmode, if_true] <;> omega
  · simp only [hmode, if_false] at hA hB hR
    refine ⟨⟨p.callback, p.tradedA, p.tradedB, ⟨p.refunded.val + a.output, by omega⟩,
      p.used || a.isInput⟩, ⟨rfl, ?_, ?_, ?_, rfl⟩, ⟨hC, ?_, ?_, ?_, hU⟩⟩ <;>
      simp only [hmode, if_false] <;> omega

/-- The loop ends with the callback called when the permitted actions before the last one are
followed by it. -/
theorem reads_loop (viewingKey : Felt) {n i : Nat} (hcount : i + n = count) {p q : Progress}
    (hp : p.callback = false) :
    Reader.Reads (Step self mode terms viewingKey count) p (List.range' i n) as q ∧
        q.callback = true ↔
      ∃ before, as = before ++ [callback self viewingKey mode] ∧ before.length + 1 = n ∧
        (∀ a ∈ before, Permitted self mode terms a) ∧ Tallies mode terms p before q := by
  induction n generalizing i p as with
  | zero =>
    constructor
    · rintro ⟨⟨rfl, rfl⟩, hq⟩
      rw [hp] at hq
      cases hq
    · rintro ⟨before, _, hlen, _⟩
      cases hlen
  | succ n ih =>
    have hnext : i + 1 + n = count := by omega
    rw [List.range'_succ]
    constructor
    · rintro ⟨⟨a, rest, r, rfl, hstep, hrest⟩, hq⟩
      rcases hstep with ⟨hpermitted, hone⟩ | ⟨rfl, hlast, _, rfl⟩
      · obtain ⟨before, rfl, hlen, hall, htallies⟩ :=
          (ih hnext (hone.callback.trans hp)).mp ⟨hrest, hq⟩
        refine ⟨a :: before, rfl, by rw [List.length_cons, hlen], ?_, htallies.cons hone⟩
        exact List.forall_mem_cons.mpr ⟨hpermitted, hall⟩
      · -- the callback is only read in the last iteration
        obtain rfl : n = 0 := by omega
        obtain ⟨rfl, rfl⟩ := hrest
        refine ⟨[], rfl, rfl, fun a ha => absurd ha List.not_mem_nil, ?_⟩
        constructor <;> simp
    · rintro ⟨before, rfl, hlen, hall, htallies⟩
      cases before with
      | nil =>
        obtain rfl : n = 0 := (Nat.succ.inj hlen).symm
        refine ⟨⟨_, _, _, rfl, Or.inr ⟨rfl, hcount, hp, rfl⟩, rfl, ?_⟩, htallies.callback⟩
        obtain ⟨hC, hA, hB, hR, hU⟩ := htallies
        cases q
        simp_all [Fin.ext_iff]
      | cons a before =>
        obtain ⟨r, hone, hrest⟩ := htallies.uncons
        obtain ⟨hpermitted, hall⟩ := List.forall_mem_cons.mp hall
        obtain ⟨hreads, hq⟩ := (ih hnext (hone.callback.trans hp)).mpr
          ⟨before, rfl, Nat.succ.inj hlen, hall, hrest⟩
        exact ⟨⟨a, _, r, rfl, Or.inl ⟨hpermitted, hone⟩, hreads⟩, hq⟩

end Loop

/-! ## The whole calldata -/

structure Pays (mode : U8) (terms : Terms) (before : List Action) : Prop where
  traded : mode = settle →
    sumOver (Action.sent terms.tokenA terms.partyB) before = terms.amountA.val ∧
    sumOver (Action.sent terms.tokenB terms.partyA) before = terms.amountB.val
  returned : mode = refundA ∨ mode = refundB → 0 < sumOver Action.output before
  spends : mode = settle ∨ mode = refundA ∨ mode = refundB → before.any Action.isInput = true
  /-- The checker adds up in a `u128`. -/
  fits : mode ≠ settle → sumOver Action.output before < 2 ^ 128

/-- The bundles that the account lets pass in a mode. -/
def Admitted (self : ContractAddress) (mode : U8) (terms : Terms) (b : Bundle) : Prop :=
  ∃ before, b.actions.val = before ++ [callback self b.viewingKey mode] ∧ before.length < 64 ∧
    (∀ a ∈ before, Permitted self mode terms a) ∧ Pays mode terms before

variable {self : ContractAddress} {mode : U8} {terms : Terms}

theorem not_refund_of_settle (h : mode = settle) : ¬ (mode = refundA ∨ mode = refundB) := by
  subst h
  decide

/-- What the accumulators must show at the end. -/
def Paid (mode : U8) (terms : Terms) (q : Progress) : Prop :=
  (mode = settle → q.used = true ∧ q.tradedA = terms.amountA ∧ q.tradedB = terms.amountB) ∧
    (mode = refundA ∨ mode = refundB → q.used = true ∧ 0 < q.refunded.val)

theorem returns_checkPayment {q : Progress} {rest : List Felt} {u : Unit} :
    Returns (checkPayment mode terms q) data u rest ↔ Paid mode terms q ∧ rest = data := by
  unfold checkPayment Paid
  by_cases hs : mode = settle
  · have hr := not_refund_of_settle hs
    rw [if_pos hs, returns_assert]
    exact and_congr_left fun _ => ⟨fun h => ⟨fun _ => h, fun h' => absurd h' hr⟩, fun h => h.1 hs⟩
  · rw [if_neg hs]
    by_cases hr : mode = refundA ∨ mode = refundB
    · rw [if_pos hr, returns_assert]
      exact and_congr_left fun _ => ⟨fun h => ⟨fun h' => absurd h' hs, fun _ => h⟩, fun h => h.2 hr⟩
    · rw [if_neg hr, returns_pure]
      exact ⟨fun h => ⟨⟨fun h' => absurd h' hs, fun h' => absurd h' hr⟩, h.2⟩, fun h => ⟨rfl, h.2⟩⟩

theorem tallies_iff_traded (h : mode = settle) {q : Progress} :
    Tallies mode terms ⟨false, 0, 0, 0, false⟩ before q ↔ q.callback = true ∧
        q.tradedA.val = sumOver (Action.sent terms.tokenA terms.partyB) before ∧
        q.tradedB.val = sumOver (Action.sent terms.tokenB terms.partyA) before ∧
        q.refunded = 0 ∧ q.used = before.any Action.isInput := by
  constructor
  · rintro ⟨hC, hA, hB, hR, hU⟩
    simp only [h, if_true, Fin.val_zero, Nat.add_zero, Nat.zero_add, Bool.false_or] at hA hB hR hU
    exact ⟨hC, hA, hB, Fin.ext hR, hU⟩
  · rintro ⟨hC, hA, hB, hR, hU⟩
    constructor <;> simp [*]

theorem tallies_iff_output (h : mode ≠ settle) {q : Progress} :
    Tallies mode terms ⟨false, 0, 0, 0, false⟩ before q ↔
      q.callback = true ∧ q.tradedA = 0 ∧ q.tradedB = 0 ∧
        q.refunded.val = sumOver Action.output before ∧ q.used = before.any Action.isInput := by
  constructor
  · rintro ⟨hC, hA, hB, hR, hU⟩
    simp only [h, if_false, Fin.val_zero, Nat.add_zero, Nat.zero_add, Bool.false_or] at hA hB hR hU
    exact ⟨hC, Fin.ext hA, Fin.ext hB, hR, hU⟩
  · rintro ⟨hC, hA, hB, hR, hU⟩
    constructor <;> simp [*]

/-- The accumulators show what the actions pay. -/
theorem pays_iff :
    Pays mode terms before ↔
      ∃ q, Tallies mode terms ⟨false, 0, 0, 0, false⟩ before q ∧ Paid mode terms q := by
  by_cases h : mode = settle
  · have hr := not_refund_of_settle h
    simp only [tallies_iff_traded h]
    constructor
    · intro hpays
      obtain ⟨hA, hB⟩ := hpays.traded h
      exact ⟨⟨true, terms.amountA, terms.amountB, 0, _⟩, ⟨rfl, hA.symm, hB.symm, rfl, rfl⟩,
        fun _ => ⟨hpays.spends (Or.inl h), rfl, rfl⟩, fun h' => absurd h' hr⟩
    · rintro ⟨q, ⟨_, hA, hB, _, hU⟩, hpaid, _⟩
      obtain ⟨hused, htradedA, htradedB⟩ := hpaid h
      exact ⟨fun _ => ⟨htradedA ▸ hA.symm, htradedB ▸ hB.symm⟩, fun h' => absurd h' hr,
        fun _ => hU.symm.trans hused, fun h' => absurd h h'⟩
  · simp only [tallies_iff_output h]
    constructor
    · intro hpays
      exact ⟨⟨true, 0, 0, ⟨sumOver Action.output before, hpays.fits h⟩, _⟩,
        ⟨rfl, rfl, rfl, rfl, rfl⟩, fun h' => absurd h' h,
        fun hr => ⟨hpays.spends (Or.inr hr), hpays.returned hr⟩⟩
    · rintro ⟨q, ⟨_, _, _, hR, hU⟩, _, hpaid⟩
      exact ⟨fun h' => absurd h' h, fun hr => hR ▸ (hpaid hr).2,
        fun hm => hU.symm.trans (hpaid (hm.resolve_left h)).1, fun _ => hR ▸ q.refunded.isLt⟩

theorem checkActions_ok_iff (hterms : terms.tokenA ≠ terms.tokenB) :
    checkActions self data mode terms = .ok () ↔
      ∃ b : Bundle, data = b.encode self ∧ Admitted self mode terms b := by
  rw [checkActions, run'_eq_ok]
  simp only [readActions, take, Reader.returns_take_bind, returns_assert_bind, returns_expect_bind,
    tryInto_eq_some, List.range_eq_range']
  constructor
  · rintro ⟨rest, _, _, rfl, rfl, viewingKey, _, rfl, felt, tail, rfl, count, hfelt, hcount, h⟩
    obtain ⟨q, mid, hloop, hrest⟩ := returns_bind.mp h
    obtain ⟨⟨rfl, hcallback⟩, hend⟩ := returns_assert_bind.mp (returns_get_bind.mp hrest)
    obtain ⟨actions, rfl, hreads⟩ :=
      (Reader.returns_foldlM_reads fun _ _ _ _ _ => returns_checkAction hterms).mp hloop
    obtain ⟨before, rfl, hlen, hall, htallies⟩ :=
      (reads_loop viewingKey (Nat.zero_add _) rfl).mp ⟨hreads, hcallback⟩
    have hlength : (before ++ [callback self viewingKey mode]).length = count.val := by
      rw [List.length_append, List.length_singleton, hlen]
    have hspan : (before ++ [callback self viewingKey mode]).length < 2 ^ 32 :=
      hlength.trans_lt count.isLt
    obtain rfl := eq_lengthFelt (hfelt.symm.trans hlength.symm) hspan
    refine ⟨⟨viewingKey, ⟨_, hspan⟩⟩, ?_, before, rfl, by omega, hall,
      pays_iff.mpr ⟨q, htallies, (returns_checkPayment.mp hend).1⟩⟩
    rw [Bundle.encode, encodeList, List.append_nil]
  · rintro ⟨⟨viewingKey, actions⟩, rfl, before, hactions, hlen, hall, hpays⟩
    dsimp only at hactions
    obtain ⟨q, htallies, hpaid⟩ := pays_iff.mp hpays
    have hlength : before.length + 1 = actions.val.length := by
      rw [hactions, List.length_append, List.length_singleton]
    obtain ⟨hreads, hcallback⟩ := (reads_loop viewingKey (Nat.zero_add _) rfl).mpr
      ⟨before, rfl, hlength, hall, htallies⟩
    rw [← hactions] at hreads
    refine ⟨[], _, _, rfl, rfl, viewingKey, _, rfl, _, _, rfl,
      ⟨actions.val.length, actions.property⟩, (lengthFelt_val actions.property).symm, by
        dsimp only; omega, ?_⟩
    refine returns_bind.mpr ⟨q, [], ?_, ?_⟩
    · refine (Reader.returns_foldlM_reads fun _ _ _ _ _ => returns_checkAction hterms).mpr
        ⟨actions.val, (List.append_nil _).symm, hreads⟩
    · exact returns_get_bind.mpr (returns_assert_bind.mpr
        ⟨⟨rfl, hcallback⟩, returns_checkPayment.mpr ⟨hpaid, rfl⟩⟩)

end App20.Confidential
