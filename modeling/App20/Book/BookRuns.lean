import App20.Book.MakerBook
import App20.Lib.Run

/-!
# Runs of the maker book

Anybody may call the book at any time and with any arguments. A call that reverts leaves the book as
it was; a call that returns leaves a receipt.

* `maker_book_lawful`: what holds over every run. The accounts are the makers that registered, each
  of them once. A key that changes gets a larger revision. A request keeps its terms, its status
  only moves on, and it is answered only under the key that it was made for.
-/

namespace App20.Book

open App20.Lib App20.Lib.Exec App20.Starknet
open Function (update update_of_ne update_self)

/-! ## The system -/

/-- A call that returned. -/
structure Receipt where
  caller : ContractAddress
  call : Call

structure Sys where
  storage : Storage
  now : U64
  receipts : List Receipt

inductive Action where
  /-- The block time moves forward. -/
  | advance (time : U64)
  | call (caller : ContractAddress) (call : Call)

/-- Only a later block time is taken over. -/
def step (s : Sys) : Action → Sys
  | .advance time => if s.now.val ≤ time.val then { s with now := time } else s
  | .call caller call =>
    match (dispatch ⟨caller, s.now⟩ call).run ⟨s.storage, (), []⟩ with
    | .ok (_, t) => ⟨t.storage, s.now, s.receipts ++ [⟨caller, call⟩]⟩
    | .error _ => s

def deployed (now : U64) : Sys := ⟨Storage.empty, now, []⟩

/-- What a step does: it leaves book and receipts as they are, or it is a call that returned. -/
theorem step_cases (s : Sys) (a : Action) :
    ((step s a).storage = s.storage ∧ (step s a).receipts = s.receipts) ∨
      ∃ caller call, a = .call caller call ∧
        Outcome ⟨caller, s.now⟩ s.storage call (step s a).storage ∧
        (step s a).receipts = s.receipts ++ [⟨caller, call⟩] := by
  cases a with
  | advance time =>
    left
    unfold step
    dsimp only
    split
    · exact ⟨rfl, rfl⟩
    · exact ⟨rfl, rfl⟩
  | call caller call =>
    unfold step
    dsimp only
    split
    · rename_i u t hrun
      right
      exact ⟨caller, call, rfl, outcome_of_returns (s := ⟨s.storage, (), []⟩) hrun, rfl⟩
    · left
      exact ⟨rfl, rfl⟩

/-! ## The enumeration -/

def Registered (receipts : List Receipt) (account : ContractAddress) : Prop :=
  ∃ r ∈ receipts, r.caller = account ∧ ∃ x y validUntil, r.call = .register x y validUntil

/-- The accounts below the count differ, and are the makers with a revision, which registered. -/
structure Enumerated (s : Sys) : Prop where
  distinct : ∀ i j : U64, i < s.storage.count → j < s.storage.count →
    s.storage.accounts i = s.storage.accounts j → i = j
  listed : ∀ account, (s.storage.makers account).revision ≠ 0 ↔
    ∃ i : U64, i < s.storage.count ∧ s.storage.accounts i = account
  registered : ∀ account, (s.storage.makers account).revision ≠ 0 ↔ Registered s.receipts account

theorem enumerated_deployed (now : U64) : Enumerated (deployed now) where
  distinct _ _ hi := absurd hi (Nat.not_lt_zero _)
  listed _ := ⟨fun h => absurd rfl h, fun ⟨_, hi, _⟩ => absurd hi (Nat.not_lt_zero _)⟩
  registered _ := ⟨fun h => absurd rfl h, fun ⟨_, hr, _⟩ => (List.not_mem_nil hr).elim⟩

theorem registered_append {receipts : List Receipt} {r : Receipt} {account : ContractAddress} :
    Registered (receipts ++ [r]) account ↔ Registered receipts account ∨
      (r.caller = account ∧ ∃ x y validUntil, r.call = .register x y validUntil) := by
  unfold Registered
  simp only [List.mem_append, List.mem_singleton]
  constructor
  · intro h
    obtain ⟨r', hr' | rfl, haccount⟩ := h
    · exact Or.inl ⟨r', hr', haccount⟩
    · exact Or.inr haccount
  · intro h
    rcases h with ⟨r', hr', haccount⟩ | haccount
    · exact ⟨r', Or.inl hr', haccount⟩
    · exact ⟨r, Or.inr rfl, haccount⟩

theorem revision_ne_zero {revision previous : U64} (h : revision.val = previous.val + 1) :
    revision ≠ 0 := by
  intro hzero
  rw [hzero] at h
  exact absurd h (Nat.succ_ne_zero _).symm

variable {s : Sys} {caller : ContractAddress} {r : Request} {id : Felt} {a : Action}

theorem Enumerated.keep {t : Sys} (h : Enumerated s) {call : Call}
    (haccounts : t.storage.accounts = s.storage.accounts)
    (hcount : t.storage.count = s.storage.count)
    (hmakers : ∀ account, (t.storage.makers account).revision ≠ 0 ↔
      (s.storage.makers account).revision ≠ 0)
    (hreceipts : t.receipts = s.receipts ++ [⟨caller, call⟩])
    (hcall : (∃ x y validUntil, call = .register x y validUntil) →
      (s.storage.makers caller).revision ≠ 0) : Enumerated t where
  distinct := by
    rw [haccounts, hcount]
    exact h.distinct
  listed account := by
    rw [haccounts, hcount, hmakers]
    exact h.listed account
  registered account := by
    rw [hmakers, h.registered, hreceipts, registered_append]
    constructor
    · exact Or.inl
    · intro hor
      rcases hor with hold | ⟨rfl, hregister⟩
      · exact hold
      · exact (h.registered _).mp (hcall hregister)

/-- A first registration puts its caller behind the accounts. -/
theorem Enumerated.enlist {t : Sys} (h : Enumerated s) {x y : U256}
    {validUntil revision count : U64} (hnew : (s.storage.makers caller).revision = 0)
    (hrevision : revision.val = (s.storage.makers caller).revision.val + 1)
    (hcount : count.val = s.storage.count.val + 1) (hstorage : t.storage =
      { s.storage with makers := update s.storage.makers caller ⟨x, y, revision, validUntil⟩
                       accounts := update s.storage.accounts s.storage.count caller
                       count })
    (hreceipts : t.receipts = s.receipts ++ [⟨caller, .register x y validUntil⟩]) :
    Enumerated t := by
  have hunlisted : ∀ i : U64, i < s.storage.count → s.storage.accounts i ≠ caller :=
    fun i hi hcaller => (h.listed caller).mpr ⟨i, hi, hcaller⟩ hnew
  have hbelow : ∀ i : U64, i < count ↔ i < s.storage.count ∨ i = s.storage.count := by
    intro i
    rw [Fin.lt_def, Fin.lt_def, Fin.ext_iff, hcount]
    omega
  have haccount : ∀ i : U64, i < s.storage.count →
      update s.storage.accounts s.storage.count caller i = s.storage.accounts i :=
    fun i hi => update_of_ne (ne_of_lt hi) _ _
  refine ⟨?_, ?_, ?_⟩
  · rw [hstorage]
    intro i j hi hj hij
    dsimp only at hi hj hij
    rcases (hbelow i).mp hi with hi | rfl
    · rcases (hbelow j).mp hj with hj | rfl
      · rw [haccount i hi, haccount j hj] at hij
        exact h.distinct i j hi hj hij
      · rw [haccount i hi, update_self] at hij
        exact absurd hij (hunlisted i hi)
    · rcases (hbelow j).mp hj with hj | rfl
      · rw [haccount j hj, update_self] at hij
        exact absurd hij.symm (hunlisted j hj)
      · rfl
  · rw [hstorage]
    intro account
    dsimp only
    by_cases hself : account = caller
    · rw [hself, update_self]
      refine ⟨fun _ => ⟨s.storage.count, (hbelow _).mpr (Or.inr rfl), update_self _ _ _⟩,
        fun _ => revision_ne_zero hrevision⟩
    · rw [update_of_ne hself, h.listed account]
      constructor
      · intro hlisted
        obtain ⟨i, hi, hlisted⟩ := hlisted
        exact ⟨i, (hbelow i).mpr (Or.inl hi), (haccount i hi).trans hlisted⟩
      · intro hlisted
        obtain ⟨i, hi, hlisted⟩ := hlisted
        rcases (hbelow i).mp hi with hi | rfl
        · exact ⟨i, hi, (haccount i hi).symm.trans hlisted⟩
        · rw [update_self] at hlisted
          exact absurd hlisted.symm hself
  · intro account
    rw [hstorage, hreceipts, registered_append, ← h.registered account]
    dsimp only
    by_cases hself : account = caller
    · rw [hself, update_self]
      exact ⟨fun _ => Or.inr ⟨rfl, x, y, validUntil, rfl⟩, fun _ => revision_ne_zero hrevision⟩
    · rw [update_of_ne hself]
      exact ⟨Or.inl, fun hor => hor.resolve_right fun hcaller => hself hcaller.1.symm⟩

theorem revision_update {makers : ContractAddress → Maker} {account : ContractAddress}
    {maker : Maker} (hold : (makers caller).revision ≠ 0) (hnew : maker.revision ≠ 0) :
    (update makers caller maker account).revision ≠ 0 ↔ (makers account).revision ≠ 0 := by
  by_cases hself : account = caller
  · rw [hself, update_self]
    exact ⟨fun _ => hold, fun _ => hnew⟩
  · rw [update_of_ne hself]

theorem Enumerated.step (h : Enumerated s) (a : Action) : Enumerated (step s a) := by
  rcases step_cases s a with ⟨hstorage, hreceipts⟩ | ⟨caller, call, -, houtcome, hreceipts⟩
  · refine ⟨?_, ?_, ?_⟩
    · rw [hstorage]
      exact h.distinct
    · rw [hstorage]
      exact h.listed
    · rw [hstorage, hreceipts]
      exact h.registered
  · generalize hstorage : (Book.step s a).storage = t at houtcome
    cases houtcome with
    | enlisted hnew hrevision hcount => exact h.enlist hnew hrevision hcount hstorage hreceipts
    | registered hknown hrevision | deactivated hknown hrevision =>
      refine h.keep ?_ ?_ ?_ hreceipts fun _ => hknown
      · rw [hstorage]
      · rw [hstorage]
      · rw [hstorage]
        exact fun account => revision_update hknown (revision_ne_zero hrevision)
    | requested | responded | cancelled =>
      refine h.keep ?_ ?_ ?_ hreceipts fun hregister => ?_
      · rw [hstorage]
      · rw [hstorage]
      · rw [hstorage]
        exact fun account => Iff.rfl
      · obtain ⟨x, y, validUntil, hcall⟩ := hregister
        cases hcall

theorem enumerated_run (now : U64) (as : List Action) : Enumerated (run step (deployed now) as) :=
  run_invariant (I := Enumerated) (fun _ a h => h.step a) as (enumerated_deployed now)

theorem Enumerated.enumeration (h : Enumerated s) :
    s.storage.enumeration.Nodup ∧
      ∀ account, account ∈ s.storage.enumeration ↔ Registered s.receipts account := by
  refine ⟨?_, fun account => ?_⟩
  · refine List.nodup_ofFn.mpr fun i j hij => ?_
    have hsame := congrArg Fin.val (h.distinct _ _ i.isLt j.isLt hij)
    exact Fin.ext hsame
  · rw [← h.registered, h.listed]
    unfold Storage.enumeration
    rw [List.mem_ofFn]
    constructor
    · intro hmem
      obtain ⟨i, hi⟩ := hmem
      exact ⟨_, i.isLt, hi⟩
    · intro hlisted
      obtain ⟨i, hi, haccount⟩ := hlisted
      exact ⟨⟨i.val, hi⟩, haccount⟩

/-! ## What later states keep -/

def RequestStatus.place : RequestStatus → Nat
  | .absent => 0
  | .opened => 1
  | .answered => 2
  | .cancelled => 2

/-- A request that exists keeps its terms, and its status only moves on. -/
structure Request.Follows (r r' : Request) : Prop where
  terms : r.status ≠ .absent → r'.taker = r.taker ∧ r'.maker = r.maker ∧
    r'.revision = r.revision ∧ r'.expiresAt = r.expiresAt
  status : r'.status = r.status ∨ r.status.place < r'.status.place

theorem Request.Follows.refl (r : Request) : r.Follows r :=
  ⟨fun _ => ⟨rfl, rfl, rfl, rfl⟩, Or.inl rfl⟩

theorem Request.Follows.place_le {r' : Request} (h : r.Follows r') :
    r.status.place ≤ r'.status.place := by
  rcases h.status with hsame | hlt
  · rw [hsame]
  · exact hlt.le

theorem RequestStatus.place_eq_zero {status : RequestStatus} :
    status.place = 0 ↔ status = .absent := by
  cases status <;> simp [place]

theorem Request.Follows.trans {r' r'' : Request} (h : r.Follows r') (h' : r'.Follows r'') :
    r.Follows r'' where
  terms hpresent := by
    have hpresent' : r'.status ≠ .absent := by
      intro habsent
      have hle := h.place_le
      rw [RequestStatus.place_eq_zero.mpr habsent] at hle
      exact hpresent (RequestStatus.place_eq_zero.mp (Nat.le_zero.mp hle))
    obtain ⟨htaker, hmaker, hrevision, hexpires⟩ := h.terms hpresent
    obtain ⟨htaker', hmaker', hrevision', hexpires'⟩ := h'.terms hpresent'
    exact ⟨htaker'.trans htaker, hmaker'.trans hmaker, hrevision'.trans hrevision,
      hexpires'.trans hexpires⟩
  status := by
    rcases h'.status with hsame | hlt
    · rw [hsame]
      exact h.status
    · exact Or.inr (h.place_le.trans_lt hlt)

/-- A maker is as it was, or has a larger revision. -/
def Maker.Follows (m m' : Maker) : Prop := m' = m ∨ m.revision < m'.revision

theorem Maker.Follows.trans {m m' m'' : Maker} (h : m.Follows m') (h' : m'.Follows m'') :
    m.Follows m'' := by
  rcases h with rfl | h
  · exact h'
  · rcases h' with rfl | h'
    · exact Or.inr h
    · exact Or.inr (h.trans h')

structure Sys.Follows (s t : Sys) : Prop where
  maker : ∀ account, (s.storage.makers account).Follows (t.storage.makers account)
  request : ∀ id, (s.storage.requests id).Follows (t.storage.requests id)

theorem Sys.Follows.refl (s : Sys) : s.Follows s :=
  ⟨fun _ => Or.inl rfl, fun _ => Request.Follows.refl _⟩

theorem Sys.Follows.trans {t u : Sys} (h : s.Follows t) (h' : t.Follows u) : s.Follows u :=
  ⟨fun account => (h.maker account).trans (h'.maker account),
    fun id => (h.request id).trans (h'.request id)⟩

theorem maker_follows_update {makers : ContractAddress → Maker} {maker : Maker}
    (h : maker.revision.val = (makers caller).revision.val + 1) (account : ContractAddress) :
    (makers account).Follows (update makers caller maker account) := by
  by_cases hself : account = caller
  · rw [hself, update_self]
    refine Or.inr ?_
    rw [Fin.lt_def, h]
    exact Nat.lt_succ_self _
  · rw [update_of_ne hself]
    exact Or.inl rfl

theorem request_follows_update {requests : Felt → Request} (h : (requests id).Follows r)
    (id' : Felt) : (requests id').Follows (update requests id r id') := by
  by_cases hself : id' = id
  · rw [hself, update_self]
    exact h
  · rw [update_of_ne hself]
    exact Request.Follows.refl _

theorem follows_step (s : Sys) (a : Action) : s.Follows (step s a) := by
  rcases step_cases s a with ⟨hstorage, -⟩ | ⟨caller, call, -, houtcome, -⟩
  · exact ⟨fun _ => Or.inl (by rw [hstorage]), fun _ => by
      rw [hstorage]
      exact Request.Follows.refl _⟩
  · generalize hstorage : (step s a).storage = t at houtcome
    cases houtcome with
    | enlisted hnew hrevision hcount =>
      refine ⟨?_, ?_⟩
      · rw [hstorage]
        exact maker_follows_update hrevision
      · rw [hstorage]
        exact fun _ => Request.Follows.refl _
    | registered hknown hrevision | deactivated hknown hrevision =>
      refine ⟨?_, ?_⟩
      · rw [hstorage]
        exact maker_follows_update hrevision
      · rw [hstorage]
        exact fun _ => Request.Follows.refl _
    | requested hid habsent hknown hvalid =>
      refine ⟨?_, ?_⟩
      · rw [hstorage]
        exact fun _ => Or.inl rfl
      · rw [hstorage]
        refine request_follows_update ⟨fun hpresent => absurd habsent hpresent, Or.inr ?_⟩
        rw [habsent]
        exact Nat.zero_lt_one
    | responded hopened | cancelled hopened =>
      refine ⟨?_, ?_⟩
      · rw [hstorage]
        exact fun _ => Or.inl rfl
      · rw [hstorage]
        refine request_follows_update ⟨fun _ => ⟨rfl, rfl, rfl, rfl⟩, Or.inr ?_⟩
        rw [hopened]
        exact Nat.one_lt_two

theorem follows_run (s : Sys) (as : List Action) : s.Follows (run step s as) :=
  run_invariant (I := s.Follows) (fun _ a h => h.trans (follows_step _ a)) as (Sys.Follows.refl s)

/-! ## Requests and answers -/

theorem made_under_key (hbefore : (s.storage.requests id).status = .absent)
    (hafter : ((step s a).storage.requests id).status ≠ .absent) :
    ((step s a).storage.requests id).revision =
      (s.storage.makers ((step s a).storage.requests id).maker).revision := by
  rcases step_cases s a with ⟨hstorage, -⟩ | ⟨caller, call, -, houtcome, -⟩
  · rw [hstorage] at hafter
    exact absurd hbefore hafter
  · generalize (step s a).storage = t at houtcome hafter ⊢
    cases houtcome with
    | enlisted | registered | deactivated => exact absurd hbefore hafter
    | @requested id' maker expiresAt payload =>
      dsimp only at hafter ⊢
      by_cases hself : id = id'
      · rw [hself, update_self]
      · rw [update_of_ne hself] at hafter
        exact absurd hbefore hafter
    | @responded id' payload hopened | @cancelled id' hopened =>
      dsimp only at hafter
      by_cases hself : id = id'
      · rw [hself, hopened] at hbefore
        cases hbefore
      · rw [update_of_ne hself] at hafter
        exact absurd hbefore hafter

theorem answered_under_key (hbefore : (s.storage.requests id).status ≠ .answered)
    (hafter : ((step s a).storage.requests id).status = .answered) :
    ∃ payload, a = .call (s.storage.requests id).maker (.respond id payload) ∧
      (s.storage.makers (s.storage.requests id).maker).revision = (s.storage.requests id).revision ∧
      s.now.val < (s.storage.makers (s.storage.requests id).maker).validUntil.val := by
  rcases step_cases s a with ⟨hstorage, -⟩ | ⟨caller, call, hcall, houtcome, -⟩
  · rw [hstorage] at hafter
    exact absurd hafter hbefore
  · generalize (step s a).storage = t at houtcome hafter ⊢
    cases houtcome with
    | enlisted | registered | deactivated => exact absurd hafter hbefore
    | @requested id' maker expiresAt payload | @cancelled id' =>
      dsimp only at hafter
      by_cases hself : id = id'
      · rw [hself, update_self] at hafter
        cases hafter
      · rw [update_of_ne hself] at hafter
        exact absurd hafter hbefore
    | @responded id' payload hopened hmaker htime hrevision hvalid =>
      by_cases hself : id = id'
      · rw [hself]
        refine ⟨payload, ?_, hrevision, hvalid⟩
        rw [hcall, hmaker]
      · dsimp only at hafter
        rw [update_of_ne hself] at hafter
        exact absurd hafter hbefore

theorem answered_with_its_key {a' : Action} (as : List Action)
    (habsent : (s.storage.requests id).status = .absent)
    (hmade : ((step s a).storage.requests id).status ≠ .absent)
    (hopen : ((run step (step s a) as).storage.requests id).status ≠ .answered)
    (hanswered : ((step (run step (step s a) as) a').storage.requests id).status = .answered) :
    (run step (step s a) as).storage.makers ((step s a).storage.requests id).maker =
      s.storage.makers ((step s a).storage.requests id).maker := by
  have hrevision := made_under_key habsent hmade
  obtain ⟨payload, -, hkey, -⟩ := answered_under_key hopen hanswered
  have hfollows := follows_run (step s a) as
  obtain ⟨-, hmaker, hsame, -⟩ := (hfollows.request id).terms hmade
  rw [hmaker, hsame, hrevision] at hkey
  have hall := (follows_step s a).trans hfollows
  rcases hall.maker ((step s a).storage.requests id).maker with hequal | hlt
  · exact hequal
  · exact absurd hkey (ne_of_gt hlt)

/-! ## The law -/

/-- Over every run: the enumeration lists who registered, each once; whatever happens later, a key
that changes has a larger revision, and a request keeps its terms while its status moves on; and
from a request to its answer its maker has one key. -/
theorem maker_book_lawful (now : U64) (as bs : List Action) :
    (run step (deployed now) as).storage.enumeration.Nodup ∧
      (∀ account, account ∈ (run step (deployed now) as).storage.enumeration ↔
        Registered (run step (deployed now) as).receipts account) ∧
      (run step (deployed now) as).Follows (run step (deployed now) (as ++ bs)) ∧
      ∀ a a' id,
        let s := run step (deployed now) as
        let made := step s a
        let later := run step made bs
        (s.storage.requests id).status = .absent → (made.storage.requests id).status ≠ .absent →
          (later.storage.requests id).status ≠ .answered →
          ((step later a').storage.requests id).status = .answered →
            later.storage.makers (made.storage.requests id).maker =
                s.storage.makers (made.storage.requests id).maker ∧
              (later.storage.requests id).revision =
                (s.storage.makers (made.storage.requests id).maker).revision := by
  have henumerated := (enumerated_run now as).enumeration
  refine ⟨henumerated.1, henumerated.2, ?_, ?_⟩
  · rw [run_append]
    exact follows_run _ bs
  · intro a a' id s made later habsent hmade hopen hanswered
    refine ⟨answered_with_its_key bs habsent hmade hopen hanswered, ?_⟩
    obtain ⟨-, -, hsame, -⟩ := ((follows_run made bs).request id).terms hmade
    exact hsame.trans (made_under_key habsent hmade)

/-- A maker registers, and answers a request. -/
theorem maker_book_lawful_answered :
    let s := run step (deployed 1000) [.call 7 (.register 11 22 2000)]
    let made := step s (.call 42 (.request 123 7 1 1500 [1, 2, 3]))
    let later := run step made [.advance 1100]
    ((step later (.call 7 (.respond 123 [4, 5, 6]))).storage.requests 123).status = .answered ∧
      (later.storage.requests 123).revision = (s.storage.makers 7).revision := by
  intro s made later
  have hmaker : (made.storage.requests 123).maker = 7 := by decide +kernel
  have hlawful := (maker_book_lawful 1000 [.call 7 (.register 11 22 2000)] [.advance 1100]).2.2.2
    (.call 42 (.request 123 7 1 1500 [1, 2, 3])) (.call 7 (.respond 123 [4, 5, 6])) 123
    (by decide +kernel) (by decide +kernel) (by decide +kernel) (by decide +kernel)
  refine ⟨by decide +kernel, ?_⟩
  rw [← hmaker]
  exact hlawful.2

end App20.Book
