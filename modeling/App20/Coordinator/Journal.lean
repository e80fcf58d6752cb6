import App20.Coordinator.Changes

/-!
# The journal of the coordinator

The file that the coordinator writes as a whole, and what it makes of it when it is opened again. The
values of a journal are those that were written; what comes before them (the version, the domain and the
text of the file) is that of the current version.

* `Journal.read_v3Requests`: what is read has the v3 requests of the journal.
-/

namespace App20.Coordinator

open App20.Lib App20.Domain

structure Journal where
  requests : List Request
  records : List Record
  deals : List Deal
  v3Requests : List V3Request

/-- `keyOf` -/
def RecordKey.text (key : RecordKey) : Text :=
  key.intentDigest ++ Char.ofNat 0 :: key.pending.reservationId ++
    Char.ofNat 0 :: key.pending.makerId

namespace Authority

/-- What `#serializedAuthority` writes. -/
def journal (localeCompare : Text → Text → Ordering) (a : Authority) : Journal where
  requests := sort (fun r r' => localeCompare r.intentDigest r'.intentDigest) a.requests.entries
  records := sort (fun c c' => localeCompare c.key.text c'.key.text) a.records.entries
  deals := sort (fun d d' => localeCompare d.dealId d'.dealId) a.deals.entries
  v3Requests := sort (fun r r' => localeCompare r.rfqDigest r'.rfqDigest) a.v3Requests.entries

/-- The ticket of a request, with what earlier versions left out. -/
def migrateTicket (r : Request) : Request :=
  match r.ticketAuthorization with
  | none => r
  | some ticket => { r with
      state := if r.state = .selected ∧ r.ticketDealId = none ∧ r.ticketSettlementTerms = none ∧
        r.abandonedFundingAttemptId = none then .ticketReady else r.state
      ticketDealId := some (r.ticketDealId.getD ticket.dealId)
      ticketSettlementTerms := some (r.ticketSettlementTerms.getD ticket.settlementTerms.terms)
      settlementTerms := some (r.settlementTerms.getD ticket.settlementTerms) }

def readRequest (a : Authority) (value : Request) : Except String Authority := do
  let request ← checkRequest (migrateTicket value)
  throwIf ((a.requests.get? request.intentDigest).isSome = true)
    "Coordinator journal contains a duplicate request."
  throwIf ((a.rfqOwner request.binding.rfqId).any (· ≠ request.intentDigest) = true)
    "Coordinator journal contains a duplicate RFQ identity."
  return a.putRequest request

def readRecord (a : Authority) (record : Record) : Except String Authority := do
  throwIf ((a.records.get? record.key).isSome = true)
    "Coordinator journal contains a duplicate attempt."
  return a.putRecord record

def readDeal (a : Authority) (deal : Deal) : Except String Authority := do
  throwIf ((a.deals.get? deal.dealId).isSome = true)
    "Coordinator journal contains a duplicate deal association."
  return a.putDeal deal

def readV3Request (limits : Limits) (a : Authority) (value : V3Request) :
    Except String Authority := do
  let request ← checkV3Request value
  throwIf (limits.maxClosedTakeAttempts < request.closedTakeAttempts.length)
    "Coordinator journal exceeds the configured closed-take cap."
  throwIf ((a.v3Requests.get? request.rfqDigest).isSome = true)
    "Coordinator journal contains a duplicate v3 request."
  throwIf ((a.v3Owner request.binding.rfqId).any (· ≠ request.rfqDigest) = true)
    "Coordinator journal contains a duplicate v3 RFQ felt."
  throwIf ((a.rfqOwner request.binding.rfqId).isSome = true)
    "Coordinator journal contains a cross-lifecycle RFQ identity collision."
  return a.putV3Request request

end Authority

namespace Journal

/-- The maps that the constructor makes of a journal. -/
def read (limits : Limits) (j : Journal) : Except String Authority := do
  let a ← j.requests.foldlM Authority.readRequest Authority.empty
  let a ← j.records.foldlM Authority.readRecord a
  let a ← j.deals.foldlM Authority.readDeal a
  let a ← j.v3Requests.foldlM (Authority.readV3Request limits) a
  throwIf (limits.maxV3Requests < a.v3Requests.entries.length)
    "Coordinator journal exceeds the retained v3 request cap."
  return a

/-- What is due expires when a journal is opened. -/
def reopen (limits : Limits) (j : Journal) (clock : Int) : Except String Authority := do
  let a ← j.read limits
  a.enter clock

end Journal

/-! ## What is read -/

section

variable {a b : Authority} {limits : Limits}

theorem v3Requests_foldlM {α : Type} {f : Authority → α → Except String Authority}
    (hf : ∀ a x b, f a x = .ok b → b.v3Requests = a.v3Requests) {xs : List α}
    (h : xs.foldlM f a = .ok b) : b.v3Requests = a.v3Requests := by
  induction xs generalizing a with
  | nil =>
    cases h
    rfl
  | cons x xs ih =>
    rw [List.foldlM_cons, bind_ok] at h
    obtain ⟨c, hc, h⟩ := h
    rw [ih h, hf a x c hc]

theorem readV3Request_entries {r : V3Request} (h : a.readV3Request limits r = .ok b) :
    b.v3Requests.entries = a.v3Requests.entries ++ [r] := by
  simp only [Authority.readV3Request, bind_ok, throwIf_ok, pure_ok] at h
  obtain ⟨r', hr', _, -, _, hnew, _, -, _, -, rfl⟩ := h
  obtain ⟨rfl, -⟩ := checkV3Request_ok.mp hr'
  exact Table.entries_put_of_new (by simpa using hnew)

theorem Journal.read_v3Requests {j : Journal} (h : j.read limits = .ok a) :
    a.v3Requests.entries = j.v3Requests := by
  simp only [read, bind_ok, throwIf_ok, pure_ok] at h
  obtain ⟨b, hb, c, hc, d, hd, e, he, _, -, rfl⟩ := h
  have hrequests := v3Requests_foldlM (fun a x b hread => ?_) hb
  have hrecords := v3Requests_foldlM (fun a x b hread => ?_) hc
  have hdeals := v3Requests_foldlM (fun a x b hread => ?_) hd
  · have hentries := Table.entries_foldlM (p := Authority.v3Requests)
      (fun s x s' => readV3Request_entries) he
    rw [hentries, hdeals, hrecords, hrequests]
    rfl
  · simp only [Authority.readDeal, bind_ok, pure_ok] at hread
    obtain ⟨_, -, rfl⟩ := hread
    rfl
  · simp only [Authority.readRecord, bind_ok, pure_ok] at hread
    obtain ⟨_, -, rfl⟩ := hread
    rfl
  · simp only [Authority.readRequest, bind_ok, pure_ok] at hread
    obtain ⟨_, -, _, -, _, -, rfl⟩ := hread
    rfl

end

end App20.Coordinator
