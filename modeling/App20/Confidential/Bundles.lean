import App20.Confidential.Account

/-!
# Accepted bundles

What the account has accepted when it accepts a signature: the calldata is one bundle of client
actions, read in one way, and the bundle pays what the mode allows (`accepted_bundle`).
-/

namespace App20.Confidential

open App20.Lib App20.Lib.Exec App20.Starknet

/-! ## What a bundle moves -/

/-- Both payments are made in full, and everything else goes back to where it came from. -/
structure Settles (terms : Terms) (b : Bundle) : Prop where
  paidToB : sumOver (Action.sent terms.tokenA terms.partyB) b.actions.val = terms.amountA.val
  paidToA : sumOver (Action.sent terms.tokenB terms.partyA) b.actions.val = terms.amountB.val
  outputs : ∀ a ∈ b.actions.val, ∀ token recipient, a.Sends token recipient →
    (token = into terms.tokenA ∧ recipient = into terms.partyB) ∨
      (token = into terms.tokenB ∧ recipient = into terms.partyA) ∨ IsChange terms recipient token

/-- No note is written and none is spent. -/
def MovesNothing (b : Bundle) : Prop :=
  ∀ a ∈ b.actions.val, (∀ token recipient, ¬ a.Sends token recipient) ∧ ∀ token, ¬ a.Spends token

section Bundles

variable {self : ContractAddress} {mode : U8} {terms : Terms} {b : Bundle}

/-- The callback moves nothing. -/
theorem callback_idle (viewingKey token recipient : Felt) :
    ¬ (callback self viewingKey mode).Sends token recipient ∧
      ¬ (callback self viewingKey mode).Spends token := ⟨(nomatch ·), (nomatch ·)⟩

variable {a : Action}

section

variable (h : Admitted self mode terms b)

include h

/-- Every action of an admitted bundle that moves value is a permitted one. -/
theorem Admitted.permitted (ha : a ∈ b.actions.val) :
    Permitted self mode terms a ∨ a = callback self b.viewingKey mode := by
  obtain ⟨before, hactions, _, hall, _⟩ := h
  rw [hactions, List.mem_append, List.mem_singleton] at ha
  exact ha.imp_left (hall a)

theorem Admitted.sends (ha : a ∈ b.actions.val) {token recipient : Felt}
    (hsends : a.Sends token recipient) :
    mode ≠ setup ∧ TokenAllowed terms mode token ∧
      OutputAllowed self mode terms recipient token := by
  rcases h.permitted ha with hpermitted | rfl
  · cases hsends
    exact hpermitted
  · exact absurd hsends (callback_idle _ _ recipient).1

theorem Admitted.spends (ha : a ∈ b.actions.val) {token : Felt} (hspends : a.Spends token) :
    mode ≠ setup ∧ TokenAllowed terms mode token := by
  rcases h.permitted ha with hpermitted | rfl
  · cases hspends
    exact hpermitted
  · exact absurd hspends (callback_idle _ _ token).2

theorem Admitted.length : 0 < b.actions.val.length ∧ b.actions.val.length ≤ 64 := by
  obtain ⟨before, hactions, hlen, _⟩ := h
  rw [hactions, List.length_append, List.length_singleton]
  omega

theorem Admitted.kinds (ha : a ∈ b.actions.val) : a.kind ∈ admittedKinds := by
  rcases h.permitted ha with hpermitted | rfl
  · exact hpermitted.kind_mem
  · simp [callback, Action.kind, admittedKinds]

end

theorem Permitted.kind_ne (h : Permitted self mode terms a) : a.kind ≠ 9 := by
  cases a <;> first | exact h.elim | simp [Action.kind]

/-- The callback stands at the end, and only there. -/
theorem Admitted.callback_last (h : Admitted self mode terms b) :
    ∃ before, b.actions.val = before ++ [callback self b.viewingKey mode] ∧
      ∀ a ∈ before, a.kind ≠ 9 := by
  obtain ⟨before, hactions, _, hall, _⟩ := h
  exact ⟨before, hactions, fun a ha => (hall a ha).kind_ne⟩

theorem Admitted.settles (h : Admitted self settle terms b) : Settles terms b := by
  have hadmitted := h
  obtain ⟨before, hactions, _, _, hpays⟩ := h
  obtain ⟨hA, hB⟩ := hpays.traded rfl
  refine ⟨?_, ?_, fun a ha token recipient hsends => ?_⟩
  · rw [hactions, sumOver_append, hA]
    rfl
  · rw [hactions, sumOver_append, hB]
    rfl
  · have houtput := (hadmitted.sends ha hsends).2.2
    rwa [OutputAllowed, if_pos rfl] at houtput

theorem Admitted.movesNothing (h : Admitted self setup terms b) : MovesNothing b :=
  fun _ ha => ⟨fun _ _ hsends => (h.sends ha hsends).1 rfl,
    fun _ hspends => (h.spends ha hspends).1 rfl⟩

end Bundles

theorem Bundle.encode_eq {user user' : ContractAddress} {b b' : Bundle}
    (h : b.encode user = b'.encode user') : user = user' ∧ b = b' := by
  obtain rfl := into_injective.mp (List.cons.inj h).1
  exact ⟨rfl, Bundle.encode_injective user h⟩

/-! ## The accepted calldata -/

/-- The calldata is one bundle: at most 64 actions of the admitted kinds with the callback at
the end, and nothing behind them. It cannot be read as another one. -/
structure Reviewed (account : ContractAddress) (mode : U8) (terms : Terms) (calldata : List Felt)
    (b : Bundle) : Prop where
  reads : calldata = b.encode account
  unique : ∀ user b', calldata = Bundle.encode user b' → user = account ∧ b' = b
  count : 0 < b.actions.val.length ∧ b.actions.val.length ≤ 64
  kinds : ∀ a ∈ b.actions.val, a.kind ∈ admittedKinds
  ends : ∃ before, b.actions.val = before ++ [callback account b.viewingKey mode] ∧
    ∀ a ∈ before, a.kind ≠ 9
  settles : mode = settle → Settles terms b
  movesNothing : mode = setup → MovesNothing b

/-- Every accepted signature is one of a bundle that pays exactly what was agreed in a
settlement and moves nothing in a setup. -/
theorem accepted_bundle {P : Platform} {cx : CallContext} {s : Storage} {calls : List Call}
    {additionalData signature : List Felt} {v : Felt}
    (h : isCustomSignatureValid P cx s calls additionalData signature = .ok v) :
    ∃ call auth b, calls = [call] ∧ signature = Authorisation.encode auth ∧
      Reviewed P.contractAddress auth.mode auth.terms call.calldata b := by
  obtain ⟨_, _, call, auth, b, hcalls, hsignature, haccepts⟩ := isCustomSignatureValid_ok_iff.mp h
  have hadmitted := haccepts.admitted
  refine ⟨call, auth, b, hcalls, hsignature, haccepts.calldata, fun user b' hb' => ?_,
    hadmitted.length, fun _ => hadmitted.kinds, hadmitted.callback_last, fun hmode => ?_,
    fun hmode => ?_⟩
  · obtain ⟨huser, hbundle⟩ := Bundle.encode_eq (haccepts.calldata.symm.trans hb')
    exact ⟨huser.symm, hbundle.symm⟩
  · rw [hmode] at hadmitted
    exact hadmitted.settles
  · rw [hmode] at hadmitted
    exact hadmitted.movesNothing

/-! ## A settlement -/

namespace Fixture

def platform : Platform where
  contractAddress := 0x300
  chainId := 1
  poseidonHashSpan data := data.foldl (fun h x => 3 * h + x) 7
  checkEcdsaSignature digest key r s := decide (r = digest + key ∧ s = 1)

def terms : Terms :=
  { tokenA := 0x400, tokenB := 0x500, amountA := 1234, amountB := 2345, partyA := 0x600,
    partyB := 0x700, salt := 0x789 }

def unsealed : Storage :=
  { pool := 0x200, poolClass := 0x67, commitment := 0, signerA := 0x123, signerB := 0x456,
    deadline := 1000, settled := false }

def storage : Storage := { unsealed with commitment := termsCommitment platform unsealed terms }

def context : CallContext := ⟨0, 100, fun _ => some 0x67⟩

/-- Two notes are spent, and each party gets the other's asset. -/
def settlement : List Felt :=
  [0x300, 17, 5, 6, 111, 0x400, 0, 6, 222, 0x500, 0, 3, 0x700, 33, 0x400, 1234, 0, 88,
    3, 0x600, 44, 0x500, 2345, 0, 99, 9, 0x300, 2, 17, 1, 0]

def call (calldata : List Felt) : Call := ⟨0x200, compileActionsSelector, calldata⟩

def authorise (mode : U8) (calldata : List Felt) : Authorisation :=
  { mode, terms, rA := authDigest platform storage mode calldata + 0x123, sA := 1,
    rB := authDigest platform storage mode calldata + 0x456, sB := 1 }

end Fixture

/-- The settlement of the fixture pays both parties. -/
theorem accepted_bundle_settlement :
    ∃ b : Bundle, Fixture.settlement = b.encode 0x300 ∧ Settles Fixture.terms b := by
  have haccepted : isCustomSignatureValid Fixture.platform Fixture.context Fixture.storage
      [Fixture.call Fixture.settlement] [] (Fixture.authorise settle Fixture.settlement).encode =
        .ok validated := by decide
  obtain ⟨call, auth, b, hcalls, hsignature, h⟩ := accepted_bundle haccepted
  obtain rfl := List.singleton_injective hcalls
  obtain rfl := Authorisation.encode_injective hsignature
  exact ⟨b, h.reads, h.settles rfl⟩

end App20.Confidential
