import App20.Starknet.Runtime

/-!
# The maker book

The directory of makers and of their keys, and the requests that takers put to them. Every key has
a revision, and a request names the revision that it was encrypted for. The book calls no other
contract.

* `outcome_of_returns`: what an entry point does when it returns.
-/

namespace App20.Book

open App20.Lib App20.Lib.Exec App20.Starknet
open Function (update)

/-! ## Data -/

structure Maker where
  x : U256
  y : U256
  revision : U64
  validUntil : U64

inductive RequestStatus where
  | absent | opened | answered | cancelled
  deriving DecidableEq

structure Request where
  taker : ContractAddress
  maker : ContractAddress
  revision : U64
  expiresAt : U64
  status : RequestStatus

structure Storage where
  makers : ContractAddress → Maker
  accounts : U64 → ContractAddress
  count : U64
  requests : Felt → Request

inductive Event where
  | makerUpdated (account : ContractAddress) (revision validUntil : U64)
  | requested (maker : ContractAddress) (id : Felt) (taker : ContractAddress)
      (revision expiresAt : U64) (payload : List Felt)
  | responded (id : Felt) (maker : ContractAddress) (payload : List Felt)
  | cancelled (id : Felt)

inductive BookError where
  | badPayloadSize | zeroCaller | badKeyExpiry | zeroKey | unknownMaker | badIndex
  | requestExists | inactiveKey | badExpiry | requestClosed | onlyMaker | onlyTaker

/-- Storage that was never written. -/
def Storage.empty : Storage :=
  ⟨fun _ => ⟨0, 0, 0, 0⟩, fun _ => 0, 0, fun _ => ⟨0, 0, 0, 0, .absent⟩⟩

structure CallContext where
  caller : ContractAddress
  blockTimestamp : U64

abbrev BookM := ContractM BookError Storage Event Unit

/-! ## Entry points -/

def checkPayload (payload : List Felt) : BookM Unit :=
  assert (3 ≤ payload.length ∧ payload.length ≤ 140) (.error .badPayloadSize)

/-- A caller without a revision is put at the end of the accounts. -/
def enlist (caller : ContractAddress) (previous : Maker) : BookM Unit :=
  if previous.revision = 0 then do
    let index := (← readStorage).count
    writeStorage fun s => { s with accounts := update s.accounts index caller }
    let count ← expect (checkedAdd index 1) .overflow
    writeStorage fun s => { s with count }
  else return ()

def register (cx : CallContext) (x y : U256) (validUntil : U64) : BookM Unit := do
  let now := cx.blockTimestamp
  assert (cx.caller ≠ 0) (.error .zeroCaller)
  assert (now.val < validUntil.val ∧ validUntil.val - now.val ≤ 2592000) (.error .badKeyExpiry)
  assert (x ≠ 0 ∧ y ≠ 0) (.error .zeroKey)
  let previous := (← readStorage).makers cx.caller
  enlist cx.caller previous
  let revision ← expect (checkedAdd previous.revision 1) .overflow
  writeStorage fun s =>
    { s with makers := update s.makers cx.caller ⟨x, y, revision, validUntil⟩ }
  emit (.makerUpdated cx.caller revision validUntil)

def deactivate (cx : CallContext) : BookM Unit := do
  let previous := (← readStorage).makers cx.caller
  assert (previous.revision ≠ 0) (.error .unknownMaker)
  let revision ← expect (checkedAdd previous.revision 1) .overflow
  writeStorage fun s =>
    { s with makers := update s.makers cx.caller { previous with revision, validUntil := 0 } }
  emit (.makerUpdated cx.caller revision 0)

def request (cx : CallContext) (id : Felt) (maker : ContractAddress) (revision expiresAt : U64)
    (payload : List Felt) : BookM Unit := do
  let s ← readStorage
  assert (id ≠ 0 ∧ (s.requests id).status = .absent) (.error .requestExists)
  let key := s.makers maker
  let now := cx.blockTimestamp
  assert (key.revision ≠ 0 ∧ key.revision = revision ∧ now.val < key.validUntil.val)
    (.error .inactiveKey)
  assert (now.val < expiresAt.val ∧ expiresAt.val - now.val ≤ 3600 ∧
    expiresAt.val ≤ key.validUntil.val) (.error .badExpiry)
  checkPayload payload
  let taker := cx.caller
  writeStorage fun s =>
    { s with requests := update s.requests id ⟨taker, maker, revision, expiresAt, .opened⟩ }
  emit (.requested maker id taker revision expiresAt payload)

def respond (cx : CallContext) (id : Felt) (payload : List Felt) : BookM Unit := do
  let s ← readStorage
  let record := s.requests id
  let now := cx.blockTimestamp
  assert (record.status = .opened ∧ now.val < record.expiresAt.val) (.error .requestClosed)
  assert (record.maker = cx.caller) (.error .onlyMaker)
  let key := s.makers record.maker
  assert (key.revision = record.revision ∧ now.val < key.validUntil.val) (.error .inactiveKey)
  checkPayload payload
  writeStorage fun s =>
    { s with requests := update s.requests id { record with status := .answered } }
  emit (.responded id record.maker payload)

def cancel (cx : CallContext) (id : Felt) : BookM Unit := do
  let record := (← readStorage).requests id
  assert (record.status = .opened) (.error .requestClosed)
  assert (record.taker = cx.caller) (.error .onlyTaker)
  writeStorage fun s =>
    { s with requests := update s.requests id { record with status := .cancelled } }
  emit (.cancelled id)

/-! ## Views -/

def Storage.makerAt (s : Storage) (index : U64) : Except (Panic BookError) ContractAddress := do
  check (index < s.count) .badIndex
  return s.accounts index

/-- The accounts that `maker_at` gives for the indices below the count. -/
def Storage.enumeration (s : Storage) : List ContractAddress :=
  List.ofFn fun index : Fin s.count.val => s.accounts ⟨index.val, index.isLt.trans s.count.isLt⟩

/-! ## What the entry points do -/

/-- The calls that change the book. -/
inductive Call where
  | register (x y : U256) (validUntil : U64)
  | deactivate
  | request (id : Felt) (maker : ContractAddress) (revision expiresAt : U64) (payload : List Felt)
  | respond (id : Felt) (payload : List Felt)
  | cancel (id : Felt)

def dispatch (cx : CallContext) : Call → BookM Unit
  | .register x y validUntil => register cx x y validUntil
  | .deactivate => deactivate cx
  | .request id maker revision expiresAt payload => request cx id maker revision expiresAt payload
  | .respond id payload => respond cx id payload
  | .cancel id => cancel cx id

/-- What is stored after a call that returned. -/
inductive Outcome (cx : CallContext) (s : Storage) : Call → Storage → Prop
  | enlisted {x y : U256} {validUntil revision count : U64} :
    (s.makers cx.caller).revision = 0 → revision.val = (s.makers cx.caller).revision.val + 1 →
      count.val = s.count.val + 1 →
      Outcome cx s (.register x y validUntil)
        { s with makers := update s.makers cx.caller ⟨x, y, revision, validUntil⟩
                 accounts := update s.accounts s.count cx.caller
                 count }
  | registered {x y : U256} {validUntil revision : U64} :
    (s.makers cx.caller).revision ≠ 0 → revision.val = (s.makers cx.caller).revision.val + 1 →
      Outcome cx s (.register x y validUntil)
        { s with makers := update s.makers cx.caller ⟨x, y, revision, validUntil⟩ }
  | deactivated {revision : U64} :
    (s.makers cx.caller).revision ≠ 0 → revision.val = (s.makers cx.caller).revision.val + 1 →
      Outcome cx s .deactivate
        { s with makers := update s.makers cx.caller
                  { s.makers cx.caller with revision, validUntil := 0 } }
  | requested {id : Felt} {maker : ContractAddress} {expiresAt : U64} {payload : List Felt} :
    id ≠ 0 → (s.requests id).status = .absent → (s.makers maker).revision ≠ 0 →
      cx.blockTimestamp.val < (s.makers maker).validUntil.val →
      Outcome cx s (.request id maker (s.makers maker).revision expiresAt payload)
        { s with requests := update s.requests id
                  ⟨cx.caller, maker, (s.makers maker).revision, expiresAt, .opened⟩ }
  | responded {id : Felt} {payload : List Felt} :
    (s.requests id).status = .opened → (s.requests id).maker = cx.caller →
      cx.blockTimestamp.val < (s.requests id).expiresAt.val →
      (s.makers (s.requests id).maker).revision = (s.requests id).revision →
      cx.blockTimestamp.val < (s.makers (s.requests id).maker).validUntil.val →
      Outcome cx s (.respond id payload)
        { s with requests := update s.requests id
                  { s.requests id with status := .answered } }
  | cancelled {id : Felt} :
    (s.requests id).status = .opened → (s.requests id).taker = cx.caller →
      Outcome cx s (.cancel id)
        { s with requests := update s.requests id
                  { s.requests id with status := .cancelled } }

variable {cx : CallContext} {s t : ContractState Storage Event Unit} {u : Unit}

theorem outcome_register {x y : U256} {validUntil : U64}
    (h : Returns (register cx x y validUntil) s u t) :
    Outcome cx s.storage (.register x y validUntil) t.storage := by
  simp only [register, returns_assert_bind, returns_readStorage_bind] at h
  obtain ⟨_, _, _, h⟩ := h
  obtain ⟨_, v, henlist, h⟩ := returns_bind.mp h
  simp only [returns_expect_bind, returns_writeStorage_bind, returns_emit, checkedAdd_eq_some] at h
  obtain ⟨revision, hrevision, rfl⟩ := h
  rw [enlist, returns_ite] at henlist
  rcases henlist with ⟨hzero, henlist⟩ | ⟨hknown, henlist⟩
  · simp only [returns_readStorage_bind, returns_writeStorage_bind, returns_expect_bind,
      returns_writeStorage, checkedAdd_eq_some] at henlist
    obtain ⟨count, hcount, rfl⟩ := henlist
    exact .enlisted hzero hrevision hcount
  · obtain ⟨-, rfl⟩ := returns_pure.mp henlist
    exact .registered hknown hrevision

theorem outcome_deactivate (h : Returns (deactivate cx) s u t) :
    Outcome cx s.storage .deactivate t.storage := by
  simp only [deactivate, returns_readStorage_bind, returns_assert_bind, returns_expect_bind,
    returns_writeStorage_bind, returns_emit, checkedAdd_eq_some] at h
  obtain ⟨hknown, revision, hrevision, rfl⟩ := h
  exact .deactivated hknown hrevision

theorem outcome_request {id : Felt} {maker : ContractAddress} {revision expiresAt : U64}
    {payload : List Felt} (h : Returns (request cx id maker revision expiresAt payload) s u t) :
    Outcome cx s.storage (.request id maker revision expiresAt payload) t.storage := by
  simp only [request, checkPayload, returns_readStorage_bind, returns_assert_bind,
    returns_writeStorage_bind, returns_emit] at h
  obtain ⟨⟨hid, habsent⟩, ⟨hknown, rfl, hvalid⟩, -, -, rfl⟩ := h
  exact .requested hid habsent hknown hvalid

theorem outcome_respond {id : Felt} {payload : List Felt}
    (h : Returns (respond cx id payload) s u t) :
    Outcome cx s.storage (.respond id payload) t.storage := by
  simp only [respond, checkPayload, returns_readStorage_bind, returns_assert_bind,
    returns_writeStorage_bind, returns_emit] at h
  obtain ⟨⟨hopened, htime⟩, hmaker, ⟨hrevision, hvalid⟩, -, rfl⟩ := h
  exact .responded hopened hmaker htime hrevision hvalid

theorem outcome_cancel {id : Felt} (h : Returns (cancel cx id) s u t) :
    Outcome cx s.storage (.cancel id) t.storage := by
  simp only [cancel, returns_readStorage_bind, returns_assert_bind, returns_writeStorage_bind,
    returns_emit] at h
  obtain ⟨hopened, htaker, rfl⟩ := h
  exact .cancelled hopened htaker

theorem outcome_of_returns {call : Call} (h : Returns (dispatch cx call) s u t) :
    Outcome cx s.storage call t.storage := by
  cases call with
  | register x y validUntil => exact outcome_register h
  | deactivate => exact outcome_deactivate h
  | request id maker revision expiresAt payload => exact outcome_request h
  | respond id payload => exact outcome_respond h
  | cancel id => exact outcome_cancel h

end App20.Book
