import App20.Coordinator.Funding

/-!
# Releases

The serialized parts of the operations that wait for makers. Between two parts of one release the maker
is asked to release a reservation, and any other operation may take its turn.
-/

namespace App20.Coordinator

open App20.Lib App20.Domain

/-- A release that is prepared: the binding and lease it was asked for, and the records to release;
`none` when the request is released already. -/
structure PreparedRelease where
  binding : Binding
  leaseId : Text
  records : Option (List Record)

structure ReleaseResult where
  released : Bool
  unresolved : List Record

namespace Authority

/-! ## One record -/

/-- The record as it is, unless it is gone or final. -/
def pendingRecord (a : Authority) (key : RecordKey) : Option Record :=
  (a.records.get? key).filter fun record => record.state.isFinal = false

/-- Before the maker is asked: the record expires, or is marked for release. -/
def markRelease (a : Authority) (key : RecordKey) (now : Int) : Outcome (Option Record) :=
  match a.pendingRecord key with
  | none => .kept none
  | some current =>
    if current.expiresAt ≤ now then .stored (a.putRecord { current with state := .expired }) none
    else
      let next := { current with state := .releasePending }
      .stored (a.putRecord next) (some next)

/-- After the maker has answered. What is left unresolved is the record. -/
def finishRelease (a : Authority) (key : RecordKey) (released : Bool) : Outcome (Option Record) :=
  match a.pendingRecord key with
  | none => .kept none
  | some current =>
    if released = false then .kept (some current)
    else .stored (a.putRecord { current with state := .released }) none

/-! ## Late reservations -/

/-- The end of `register` behind a request that is no longer open. -/
def lateRegistration (a : Authority) (key : RecordKey) : Except String (Outcome Record) :=
  match a.records.get? key, a.requests.get? key.intentDigest with
  | some current, some request =>
    if current.state.isFinal = true then return .kept current
    else do
      throwIf (request.state.isReleasing = false ∧ request.state.isTerminal = false)
        "Late reservation conflicts with an active funding state."
      if request.state = .releasePending then return .kept current
      else do
        let next ← checkRequest { request with state := .releasePending }
        return .stored (a.putRequest next) current
  | _, _ => .error "Late reservation lost its durable request binding."

/-! ## Losing quotes -/

/-- The records of a request beside its winner. -/
def losers (a : Authority) (intentDigest : Text) : Except String (List Record) := do
  let digest ← requireHex32 intentDigest "intentDigest"
  let request ← a.requestOf digest "Losing quote cleanup requires a durable request."
  let winner ← a.confirmedSelectionRecord request "Losing quote cleanup"
  return a.records.entries.filter fun record =>
    record.key.intentDigest = digest ∧ record.key ≠ winner.key

/-! ## Requests -/

/-- Makers that were not heard of have expired. -/
def expirePlans (r : Request) : Request :=
  { r with
    fanoutComplete := true
    makerPlans := r.makerPlans.map fun plan =>
      if plan.state = .planned then { plan with state := .expired } else plan }

def releaseMismatch (action : String) : String :=
  action ++ " target does not match the durable request principal and RFQ."

def prepareReleaseIntent (a : Authority) (input : Binding) (releaseLeaseId : Text) (now : Int) :
    Except String (Outcome PreparedRelease) := do
  let stamp ← requireTimestamp now "now"
  let binding ← requestBinding input
  let leaseId ← requireAttemptId releaseLeaseId "releaseLeaseId"
  let request ← a.requestOf binding.intentDigest (releaseMismatch "Release")
  throwIf (request.binding ≠ binding) (releaseMismatch "Release")
  if request.state = .released then return .kept ⟨binding, leaseId, none⟩
  else do
    throwIf (request.state.isReleasing = false ∨ request.releaseLeaseId ≠ some leaseId)
      "Only the exact release lease may release maker reservations."
    let completed := if request.expiresAt ≤ stamp ∧ request.fanoutComplete = false then
      expirePlans request else request
    let next ← checkRequest { completed with state := .releasePending }
    return .stored (a.putRequest next) ⟨binding, leaseId, some (a.records.entries.filter fun record =>
      record.key.intentDigest = binding.intentDigest)⟩

def completeReleaseIntent (a : Authority) (binding : Binding) (leaseId : Text) :
    Except String (Outcome ReleaseResult) := do
  let request ← a.requestOf binding.intentDigest (releaseMismatch "Release completion")
  throwIf (request.binding ≠ binding) (releaseMismatch "Release completion")
  if request.state = .released then return .kept ⟨true, []⟩
  else do
    throwIf (request.state ≠ .releasePending ∨ request.releaseLeaseId ≠ some leaseId)
      "Exact release lease changed while maker callbacks were in flight."
    let unresolved := a.unresolved binding.intentDigest
    if request.fanoutComplete = true ∧ unresolved = [] then do
      let next ← checkRequest { request with state := .released }
      return .stored (a.putRequest next) ⟨true, []⟩
    else return .kept ⟨false, unresolved⟩

/-! ## The selected reservation -/

def IsSelectedRecord (target : Deal) (record : Record) : Prop :=
  record.key = ⟨target.binding.intentDigest, target.selection.pending⟩ ∧
    target.selection.Matches record

instance (target : Deal) (record : Record) : Decidable (IsSelectedRecord target record) :=
  inferInstanceAs (Decidable (_ ∧ _))

/-- The target of a selected release and its records; `none` when the request has expired. -/
def prepareReleaseSelected (a : Authority) (input : Deal) :
    Except String (Deal × Option (List Record)) := do
  let (request, target) ← a.exactRequest input "Selected release"
  throwIf (a.deals.get? target.dealId ≠ some target ∨
      (request.state ≠ .funded ∧ request.state ≠ .expired))
    "Selected release target does not match the durable funded deal association."
  if request.state = .expired then return (target, none)
  else do
    let records := a.records.entries.filter fun record =>
      IsSelectedRecord target record ∧ record.state ≠ .reserved ∧ record.state ≠ .consumed
    throwIf (records.length ≠ 1) "Exact selected reservation is unavailable."
    return (target, some records)

def completeReleaseSelected (a : Authority) (input : Deal) : Except String ReleaseResult := do
  let (_, target) ← a.exactRequest input "Selected release completion"
  throwIf (a.deals.get? target.dealId ≠ some target)
    "Selected release binding changed while its callback was in flight."
  let unresolved := a.records.entries.filter fun record =>
    IsSelectedRecord target record ∧ record.state.isFinal = false
  return ⟨unresolved.isEmpty, unresolved⟩

/-! ## Recovery -/

/-- The records that a recovery releases, at its start and those that are left at its end. -/
def releasable (a : Authority) : List Record :=
  a.records.entries.filter fun record => record.state = .releasePending

/-- What a recovery makes of a request. -/
def recoverRequest (a : Authority) (stamp : Int) (request : Request) : Except String Request := do
  let completed ← if request.fanoutComplete = false ∧ request.expiresAt ≤ stamp then
    checkRequest (expirePlans request) else .ok request
  if completed.state = .releasePending ∧ completed.fanoutComplete = true ∧
      a.unresolved completed.intentDigest = [] then
    checkRequest { completed with state := .released }
  else return completed

def recoverRequests (a : Authority) (stamp : Int) : Except String Authority := do
  let requests ← a.requests.mapM (a.recoverRequest stamp)
  return { a with requests }

end Authority

end App20.Coordinator
