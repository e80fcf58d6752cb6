import App20.Reservation.Protocol

/-!
# Stored records

The codec of complete reservation records. `decodeStoredMakerReservation` reads any JSON value;
`decode_encode` says that what it accepts is read back as the same record after it is stored.
-/

namespace App20.Reservation

open App20.Lib App20.Domain

/-! ## Objects and their fields -/

def isObject : Json → Bool
  | .object _ => true
  | _ => false

def checkFields (value : Json) (required optional : List String)
    (missing unsupported : String → String) : Except String Unit :=
  match required.find? fun field => (value.get? field).isNone with
  | some field => .error (missing field)
  | none =>
    match value.keys.find? fun field => field ∉ required ∧ field ∉ optional with
    | some field => .error (unsupported field)
    | none => .ok ()

def stringField (value : Option Json) (label : String) : Except String Text :=
  match value with
  | some (.string s) => .ok s
  | _ => .error (label ++ " must be a string.")

def bigintField (value : Option Json) (label : String) : Except String Int :=
  match value with
  | some (.bigint n) => .ok n
  | _ => .error (label ++ " must be a bigint.")

/-- A number that is not an integer is rejected later on, just as zero is. -/
def numberField (value : Option Json) (label : String) : Except String Int :=
  match value with
  | some (.number n) => .ok n
  | some .fraction => .ok 0
  | _ => .error (label ++ " must be a number.")

def optionalStringField (value : Option Json) (label : String) : Except String (Option Text) :=
  match value with
  | none => .ok none
  | some (.string s) => .ok (some s)
  | some _ => .error (label ++ " must be a string.")

/-! ## Reservations -/

def reservationDomain : Text := "app20/maker-reservation/v1".toList

def requiredReservationFields : List String :=
  ["version", "domain", "reservationId", "makerId", "intentDigest", "rfqDigest", "asset",
    "amountBaseUnits", "createdAt", "expiresAt", "updatedAt", "fence", "state"]

def optionalReservationFields : List String :=
  ["selectedQuoteDigest", "settlementAttemptId", "settlementTransactionHash", "terminalReason"]

def reservationStates : List ReservationState :=
  [.reserved, .selected, .filling, .released, .consumed, .expired, .quarantined]

def stateField (value : Option Json) : Except String ReservationState :=
  match value with
  | some (.string s) =>
    match reservationStates.find? fun state => s = state.name.toList with
    | some state => .ok state
    | none => .error "Maker reservation state is invalid."
  | _ => .error "Maker reservation state is invalid."

/-- `value.version === 1 && value.domain === RESERVATION_DOMAIN` -/
def isVersion1 (value : Json) : Bool :=
  match value.get? "version", value.get? "domain" with
  | some (.number n), some (.string s) => decide (n = 1 ∧ s = reservationDomain)
  | _, _ => false

def assertMakerReservation (value : Json) : Except String MakerReservation := do
  throwIf (isObject value = false) "Maker reservation must be an object."
  checkFields value requiredReservationFields optionalReservationFields
    (fun field => "Maker reservation " ++ field ++ " is required.")
    (fun field => "Maker reservation field " ++ field ++ " is unsupported.")
  throwIf (isVersion1 value = false) "Only maker reservation v1 is supported."
  let state ← stateField (value.get? "state")
  let reservationId ← stringField (value.get? "reservationId") "reservationId"
  let makerId ← stringField (value.get? "makerId") "makerId"
  let intentDigest ← stringField (value.get? "intentDigest") "intentDigest"
  let rfqDigest ← stringField (value.get? "rfqDigest") "rfqDigest"
  let asset ← stringField (value.get? "asset") "asset"
  let amountBaseUnits ← bigintField (value.get? "amountBaseUnits") "amountBaseUnits"
  let createdAt ← numberField (value.get? "createdAt") "createdAt"
  let expiresAt ← numberField (value.get? "expiresAt") "expiresAt"
  let updatedAt ← numberField (value.get? "updatedAt") "updatedAt"
  let fence ← bigintField (value.get? "fence") "fence"
  checkRequired ⟨reservationId, makerId, intentDigest, rfqDigest, asset, amountBaseUnits, createdAt,
    expiresAt, updatedAt, fence, state, none, none, none, none⟩
  let selectedQuoteDigest ←
    optionalStringField (value.get? "selectedQuoteDigest") "selectedQuoteDigest"
  let settlementAttemptId ←
    optionalStringField (value.get? "settlementAttemptId") "settlementAttemptId"
  let settlementTransactionHash ←
    optionalStringField (value.get? "settlementTransactionHash") "settlementTransactionHash"
  let terminalReason ← optionalStringField (value.get? "terminalReason") "terminalReason"
  let reservation : MakerReservation :=
    ⟨reservationId, makerId, intentDigest, rfqDigest, asset, amountBaseUnits, createdAt, expiresAt,
      updatedAt, fence, state, selectedQuoteDigest, settlementAttemptId, settlementTransactionHash,
      terminalReason⟩
  checkState reservation
  return reservation

open Json in
def MakerReservation.encode (r : MakerReservation) : Json :=
  .object (
    ("version", .number 1) :: ("domain", .string reservationDomain) ::
    ("reservationId", .string r.reservationId) :: ("makerId", .string r.makerId) ::
    ("intentDigest", .string r.intentDigest) :: ("rfqDigest", .string r.rfqDigest) ::
    ("asset", .string r.asset) :: ("amountBaseUnits", .bigint r.amountBaseUnits) ::
    ("createdAt", .number r.createdAt) :: ("expiresAt", .number r.expiresAt) ::
    ("updatedAt", .number r.updatedAt) :: ("fence", .bigint r.fence) ::
    ("state", .string r.state.name.toList) ::
    (optional "selectedQuoteDigest" (r.selectedQuoteDigest.map .string) ++
    (optional "settlementAttemptId" (r.settlementAttemptId.map .string) ++
    (optional "settlementTransactionHash" (r.settlementTransactionHash.map .string) ++
    optional "terminalReason" (r.terminalReason.map .string)))))

variable {s t : Text} {label : String} {n : Int} {value : Option Json} {α : Type}

@[simp] theorem stringField_string : stringField (some (.string s)) label = .ok s := rfl

@[simp] theorem bigintField_bigint : bigintField (some (.bigint n)) label = .ok n := rfl

@[simp] theorem numberField_number : numberField (some (.number n)) label = .ok n := rfl

theorem optionalStringField_map {value : Option Text} :
    optionalStringField (value.map .string) label = .ok value := by
  cases value <;> rfl

theorem stateField_name (state : ReservationState) :
    stateField (some (.string state.name.toList)) = .ok state := by
  cases state <;> decide

/-- An object with the required fields and no unknown ones passes. -/
theorem checkFields_ok {value : Json} {required optional : List String}
    {missing unsupported : String → String}
    (hrequired : ∀ field ∈ required, (value.get? field).isNone = false)
    (hkeys : value.keys ⊆ required ++ optional) :
    checkFields value required optional missing unsupported = .ok () := by
  have h1 : required.find? (fun field => (value.get? field).isNone) = none :=
    List.find?_eq_none.mpr fun field hmem => by simp [hrequired field hmem]
  have h2 : value.keys.find? (fun field => field ∉ required ∧ field ∉ optional) = none := by
    apply List.find?_eq_none.mpr
    intro field hmem
    have hfield := List.mem_append.mp (hkeys hmem)
    simp only [decide_eq_true_eq, not_and_or, not_not]
    exact hfield
  unfold checkFields
  rw [h1]
  dsimp only
  rw [h2]

theorem checkFields_encode (r : MakerReservation) (missing unsupported : String → String) :
    checkFields r.encode requiredReservationFields optionalReservationFields missing unsupported =
      .ok () := by
  apply checkFields_ok
  · simp [requiredReservationFields, MakerReservation.encode, Json.get?, List.lookup_cons]
  · simp [requiredReservationFields, optionalReservationFields, MakerReservation.encode, Json.keys,
      Json.map_fst_optional_subset]

/-- A reservation that is stored is read back as it was, if it passes the checks. -/
theorem assertMakerReservation_encode (r : MakerReservation) :
    assertMakerReservation r.encode = (do assertReservation r; return r) := by
  have hrequired : checkRequired ⟨r.reservationId, r.makerId, r.intentDigest, r.rfqDigest, r.asset,
      r.amountBaseUnits, r.createdAt, r.expiresAt, r.updatedAt, r.fence, r.state, none, none, none,
      none⟩ = checkRequired r := rfl
  have hversion : isVersion1 r.encode = true := by
    simp [isVersion1, MakerReservation.encode, Json.get?, List.lookup_cons]
  unfold assertMakerReservation
  rw [checkFields_encode, throwIf_neg (by simp [isObject, MakerReservation.encode]),
    throwIf_neg (by simp [hversion])]
  simp only [MakerReservation.encode, Json.get?, List.lookup_cons, Json.lookup_optional_append,
    Json.lookup_optional]
  simp [ok_bind, stateField_name, optionalStringField_map, hrequired, assertReservation]

/-- What is accepted passes the checks. -/
theorem assertMakerReservation_ok {value : Json} {r : MakerReservation}
    (h : assertMakerReservation value = .ok r) : assertReservation r = .ok () := by
  simp only [assertMakerReservation, bind_ok, pure_ok] at h
  obtain ⟨_, -, _, -, _, -, _, -, _, -, _, -, _, -, _, -, _, -, _, -, _, -, _, -, _, -, _, -, _,
    hrequired, _, -, _, -, _, -, _, -, _, hstate, rfl⟩ := h
  exact bind_ok.mpr ⟨_, hrequired, hstate⟩

/-! ## Complete records -/

inductive ReconciliationOutcome where
  | settled | refunded
  deriving DecidableEq

structure ReconciliationBinding where
  attemptId : Text
  authorityDigest : Text
  authorityRevision : Int
  outcome : ReconciliationOutcome
  selectionFence : Int
  deriving DecidableEq

inductive QuarantineReason where
  | authorityDisagreement | authorityReorged
  deriving DecidableEq

structure AuthorityQuarantine where
  binding : ReconciliationBinding
  reason : QuarantineReason
  quarantinedAt : Int
  deriving DecidableEq

structure TerminalReconciliation where
  binding : ReconciliationBinding
  reconciledAt : Int
  deriving DecidableEq

structure SignedQuote where
  signedCanonical : Text
  signature : Text
  quoteDigest : Text
  deriving DecidableEq

structure StoredReservation where
  reservation : MakerReservation
  nonce : Text
  solverId : Text
  solverKey : Text
  spreadBps : Int
  sellToken : Text
  sellAmount : Int
  buyToken : Text
  grossBuyAmount : Int
  buyAmount : Int
  minBuyAmount : Int
  rfqExpiresAt : Int
  pricingProvenance : Text
  quote : Option SignedQuote
  settlementDealId : Option Text
  settlementDeadline : Option Int
  settlementTicketAddress : Option Text
  authorityQuarantine : Option AuthorityQuarantine
  terminalReconciliation : Option TerminalReconciliation
  deriving DecidableEq

def maxU128 : Int := 2 ^ 128 - 1

def text (value : Option Json) (label : String) : Except String Text :=
  match value with
  | some (.string s) => if trim s = [] then .error (label ++ " is required.") else .ok (trim s)
  | _ => .error (label ++ " is required.")

def hex32 (value : Option Json) (label : String) : Except String Text := do
  let t ← text value label
  throwIf (isHex32 (toLowerCase t) = false) (label ++ " must be a canonical 32-byte hex value.")
  return toLowerCase t

def lowered (value : Option Json) (label : String) : Except String Text := do
  let t ← text value label
  return toLowerCase t

def amount (value : Option Json) (label : String) : Except String Int :=
  match value with
  | some (.bigint n) =>
    if 0 < n ∧ n ≤ maxU128 then .ok n else .error (label ++ " must be a positive u128 value.")
  | _ => .error (label ++ " must be a positive u128 value.")

def timestamp (value : Option Json) (label : String) : Except String Int :=
  match value with
  | some v => requireTimestamp v label
  | none => .error (label ++ " must be a positive unix-seconds timestamp.")

def spread (value : Option Json) : Except String Int :=
  match value with
  | some (.number n) =>
    if 0 ≤ n ∧ n ≤ maxSafeInteger then .ok n
    else .error "spreadBps must be a non-negative safe integer."
  | _ => .error "spreadBps must be a non-negative safe integer."

def whenDefined {α : Type} (value : Option Json) (read : Json → Except String α) :
    Except String (Option α) :=
  match value with
  | none => .ok none
  | some v => (read v).map some

def outcome (value : Option Json) (label : String) : Except String ReconciliationOutcome :=
  match value with
  | some (.string s) =>
    if s = "settled".toList then .ok .settled
    else if s = "refunded".toList then .ok .refunded
    else .error (label ++ " outcome is invalid.")
  | _ => .error (label ++ " outcome is invalid.")

def reconciliation (value : Json) (label : String) : Except String ReconciliationBinding := do
  throwIf (isObject value = false) (label ++ " metadata is invalid.")
  let outcome ← outcome (value.get? "outcome") label
  let attemptId ← text (value.get? "attemptId") (label ++ " attemptId")
  let authorityDigest ← hex32 (value.get? "authorityDigest") (label ++ " authorityDigest")
  let authorityRevision ←
    timestamp (value.get? "authorityRevision") (label ++ " authorityRevision")
  let selectionFence ← amount (value.get? "selectionFence") (label ++ " selectionFence")
  return ⟨attemptId, authorityDigest, authorityRevision, outcome, selectionFence⟩

def quarantineReason (value : Option Json) : Except String QuarantineReason :=
  match value with
  | some (.string s) =>
    if s = "authority-disagreement".toList then .ok .authorityDisagreement
    else if s = "authority-reorged".toList then .ok .authorityReorged
    else .error "authority quarantine reason is invalid."
  | _ => .error "authority quarantine reason is invalid."

def authorityQuarantine (value : Json) : Except String AuthorityQuarantine := do
  let binding ← reconciliation value "authority quarantine"
  let reason ← quarantineReason (value.get? "reason")
  let quarantinedAt ←
    timestamp (value.get? "quarantinedAt") "authority quarantine quarantinedAt"
  return ⟨binding, reason, quarantinedAt⟩

def terminalReconciliation (value : Json) : Except String TerminalReconciliation := do
  let binding ← reconciliation value "terminal reconciliation"
  let reconciledAt ←
    timestamp (value.get? "reconciledAt") "terminal reconciliation reconciledAt"
  return ⟨binding, reconciledAt⟩

def requiredFields : List String :=
  ["reservation", "nonce", "solverId", "solverKey", "spreadBps", "sellToken", "sellAmount",
    "buyToken", "grossBuyAmount", "buyAmount", "minBuyAmount", "rfqExpiresAt",
    "pricingProvenance"]

def optionalFields : List String :=
  ["signedCanonical", "signature", "quoteDigest", "settlementDealId", "settlementDeadline",
    "settlementTicketAddress", "authorityQuarantine", "terminalReconciliation"]

/-- The three fields of a signed quote, once they are known to come together. -/
def signedQuote (input : Json) : Except String (Option SignedQuote) :=
  whenDefined (input.get? "signedCanonical") fun signedCanonical => do
    let signedCanonical ← text (some signedCanonical) "signedCanonical"
    let signature ← text (input.get? "signature") "signature"
    let quoteDigest ← hex32 (input.get? "quoteDigest") "quoteDigest"
    return ⟨signedCanonical, signature, quoteDigest⟩

def decodeStoredMakerReservation (input : Json) : Except String StoredReservation := do
  throwIf (isObject input = false) "Stored maker reservation is invalid."
  checkFields input requiredFields optionalFields
    (fun field => "Stored maker reservation " ++ field ++ " is required.")
    (fun field => "Stored maker reservation field " ++ field ++ " is unsupported.")
  let reservation ← assertMakerReservation ((input.get? "reservation").getD .null)
  let _ ← canonicalMakerReservation reservation
  let spreadBps ← spread (input.get? "spreadBps")
  let defined := (input.get? "signedCanonical").isSome
  throwIf (defined ≠ (input.get? "signature").isSome ∨ defined ≠ (input.get? "quoteDigest").isSome)
    "Persisted quote signature fields are incomplete."
  let nonce ← hex32 (input.get? "nonce") "nonce"
  let solverId ← text (input.get? "solverId") "solverId"
  let solverKey ← text (input.get? "solverKey") "solverKey"
  let sellToken ← text (input.get? "sellToken") "sellToken"
  let sellAmount ← amount (input.get? "sellAmount") "sellAmount"
  let buyToken ← text (input.get? "buyToken") "buyToken"
  let grossBuyAmount ← amount (input.get? "grossBuyAmount") "grossBuyAmount"
  let buyAmount ← amount (input.get? "buyAmount") "buyAmount"
  let minBuyAmount ← amount (input.get? "minBuyAmount") "minBuyAmount"
  let rfqExpiresAt ← timestamp (input.get? "rfqExpiresAt") "rfqExpiresAt"
  let pricingProvenance ← text (input.get? "pricingProvenance") "pricingProvenance"
  let quote ← signedQuote input
  let settlementDealId ← whenDefined (input.get? "settlementDealId")
    fun v => lowered (some v) "settlementDealId"
  let settlementDeadline ← whenDefined (input.get? "settlementDeadline")
    fun v => timestamp (some v) "settlementDeadline"
  let settlementTicketAddress ← whenDefined (input.get? "settlementTicketAddress")
    fun v => lowered (some v) "settlementTicketAddress"
  let quarantine ← whenDefined (input.get? "authorityQuarantine") authorityQuarantine
  let terminal ← whenDefined (input.get? "terminalReconciliation") terminalReconciliation
  return ⟨reservation, nonce, solverId, solverKey, spreadBps, sellToken, sellAmount, buyToken,
    grossBuyAmount, buyAmount, minBuyAmount, rfqExpiresAt, pricingProvenance, quote,
    settlementDealId, settlementDeadline, settlementTicketAddress, quarantine, terminal⟩

/-! ## Storing and reading back -/

def ReconciliationOutcome.name : ReconciliationOutcome → String
  | .settled => "settled"
  | .refunded => "refunded"

def QuarantineReason.name : QuarantineReason → String
  | .authorityDisagreement => "authority-disagreement"
  | .authorityReorged => "authority-reorged"

def ReconciliationBinding.fields (b : ReconciliationBinding) : List (String × Json) :=
  [("attemptId", .string b.attemptId), ("authorityDigest", .string b.authorityDigest),
    ("authorityRevision", .number b.authorityRevision),
    ("outcome", .string b.outcome.name.toList), ("selectionFence", .bigint b.selectionFence)]

def AuthorityQuarantine.encode (q : AuthorityQuarantine) : Json :=
  .object (q.binding.fields ++ [("reason", .string q.reason.name.toList),
    ("quarantinedAt", .number q.quarantinedAt)])

def TerminalReconciliation.encode (t : TerminalReconciliation) : Json :=
  .object (t.binding.fields ++ [("reconciledAt", .number t.reconciledAt)])

open Json in
def StoredReservation.encode (r : StoredReservation) : Json :=
  .object (
    ("reservation", r.reservation.encode) :: ("nonce", .string r.nonce) ::
    ("solverId", .string r.solverId) :: ("solverKey", .string r.solverKey) ::
    ("spreadBps", .number r.spreadBps) :: ("sellToken", .string r.sellToken) ::
    ("sellAmount", .bigint r.sellAmount) :: ("buyToken", .string r.buyToken) ::
    ("grossBuyAmount", .bigint r.grossBuyAmount) :: ("buyAmount", .bigint r.buyAmount) ::
    ("minBuyAmount", .bigint r.minBuyAmount) :: ("rfqExpiresAt", .number r.rfqExpiresAt) ::
    ("pricingProvenance", .string r.pricingProvenance) ::
    (optional "signedCanonical" (r.quote.map fun q => .string q.signedCanonical) ++
    (optional "signature" (r.quote.map fun q => .string q.signature) ++
    (optional "quoteDigest" (r.quote.map fun q => .string q.quoteDigest) ++
    (optional "settlementDealId" (r.settlementDealId.map .string) ++
    (optional "settlementDeadline" (r.settlementDeadline.map .number) ++
    (optional "settlementTicketAddress" (r.settlementTicketAddress.map .string) ++
    (optional "authorityQuarantine" (r.authorityQuarantine.map AuthorityQuarantine.encode) ++
    optional "terminalReconciliation"
      (r.terminalReconciliation.map TerminalReconciliation.encode)))))))))

/-! What the readers return they accept again, and return as it is. -/

variable {r : StoredReservation}

theorem text_ok_iff :
    text value label = .ok t ↔ ∃ s, value = some (.string s) ∧ trim s ≠ [] ∧ t = trim s := by
  constructor
  · intro h
    unfold text at h
    split at h
    · rename_i s
      split at h
      · cases h
      · rename_i hne
        cases h
        exact ⟨s, rfl, hne, rfl⟩
    · cases h
  · rintro ⟨s, rfl, hne, rfl⟩
    simp only [text, if_neg hne]

theorem text_again (h : text value label = .ok t) : text (some (.string t)) label = .ok t := by
  obtain ⟨s, -, hne, rfl⟩ := text_ok_iff.mp h
  exact text_ok_iff.mpr ⟨_, rfl, by rwa [trim_trim], (trim_trim s).symm⟩

theorem lowered_ok_iff :
    lowered value label = .ok t ↔ ∃ s, text value label = .ok s ∧ t = toLowerCase s := by
  simp only [lowered, bind_ok, pure_ok]

theorem toLowerCase_ne_nil (h : s ≠ []) : toLowerCase s ≠ [] := by
  simpa [toLowerCase] using h

theorem lowered_again (h : lowered value label = .ok t) :
    lowered (some (.string t)) label = .ok t := by
  obtain ⟨s, hs, rfl⟩ := lowered_ok_iff.mp h
  obtain ⟨u, -, hne, rfl⟩ := text_ok_iff.mp hs
  have htrim : trim (toLowerCase (trim u)) = toLowerCase (trim u) :=
    trim_eq_self (trimmed_trim u).toLowerCase
  refine lowered_ok_iff.mpr ⟨toLowerCase (trim u), ?_, (toLowerCase_toLowerCase _).symm⟩
  exact text_ok_iff.mpr ⟨_, rfl, by rw [htrim]; exact toLowerCase_ne_nil hne, htrim.symm⟩

theorem hex32_ok_iff :
    hex32 value label = .ok t ↔ lowered value label = .ok t ∧ isHex32 t = true := by
  simp only [hex32, lowered_ok_iff, bind_ok, throwIf_ok, pure_ok, exists_const, Bool.not_eq_false]
  constructor
  · rintro ⟨s, hs, hhex, rfl⟩
    exact ⟨⟨s, hs, rfl⟩, hhex⟩
  · rintro ⟨⟨s, hs, rfl⟩, hhex⟩
    exact ⟨s, hs, hhex, rfl⟩

theorem hex32_again (h : hex32 value label = .ok t) : hex32 (some (.string t)) label = .ok t := by
  obtain ⟨hlowered, hhex⟩ := hex32_ok_iff.mp h
  exact hex32_ok_iff.mpr ⟨lowered_again hlowered, hhex⟩

theorem amount_again (h : amount value label = .ok n) :
    amount (some (.bigint n)) label = .ok n := by
  unfold amount at h
  split at h
  · split at h
    · rename_i hn
      cases h
      simp [amount, hn]
    · cases h
  · cases h

theorem timestamp_again (h : timestamp value label = .ok n) :
    timestamp (some (.number n)) label = .ok n := by
  unfold timestamp requireTimestamp at h
  split at h
  · split at h
    · split at h
      · rename_i hn
        cases h
        simp [timestamp, requireTimestamp, hn]
      · cases h
    · cases h
  · cases h

theorem spread_again (h : spread value = .ok n) : spread (some (.number n)) = .ok n := by
  unfold spread at h
  split at h
  · split at h
    · rename_i hn
      cases h
      simp [spread, hn]
    · cases h
  · cases h

theorem outcome_name (o : ReconciliationOutcome) (label : String) :
    outcome (some (.string o.name.toList)) label = .ok o := by
  cases o <;> rfl

theorem quarantineReason_name (q : QuarantineReason) :
    quarantineReason (some (.string q.name.toList)) = .ok q := by
  cases q <;> rfl

/-- The binding is read back from any object that starts with its fields. -/
theorem reconciliation_again {value : Json} {b : ReconciliationBinding}
    {rest : List (String × Json)} (h : reconciliation value label = .ok b) :
    reconciliation (.object (b.fields ++ rest)) label = .ok b := by
  simp only [reconciliation, bind_ok, pure_ok] at h
  obtain ⟨_, -, _, -, _, hattempt, _, hdigest, _, hrevision, _, hfence, rfl⟩ := h
  simp [reconciliation, isObject, throwIf, ReconciliationBinding.fields, Json.get?, List.lookup_cons,
    outcome_name, text_again hattempt, hex32_again hdigest, timestamp_again hrevision,
    amount_again hfence, ok_bind]

theorem authorityQuarantine_again {value : Json} {q : AuthorityQuarantine}
    (h : authorityQuarantine value = .ok q) : authorityQuarantine q.encode = .ok q := by
  simp only [authorityQuarantine, bind_ok, pure_ok] at h
  obtain ⟨_, hbinding, _, -, _, htime, rfl⟩ := h
  rw [authorityQuarantine, AuthorityQuarantine.encode, reconciliation_again hbinding, ok_bind]
  simp [ReconciliationBinding.fields, Json.get?, List.lookup_cons, quarantineReason_name,
    timestamp_again htime, ok_bind]

theorem terminalReconciliation_again {value : Json} {t : TerminalReconciliation}
    (h : terminalReconciliation value = .ok t) : terminalReconciliation t.encode = .ok t := by
  simp only [terminalReconciliation, bind_ok, pure_ok] at h
  obtain ⟨_, hbinding, _, htime, rfl⟩ := h
  rw [terminalReconciliation, TerminalReconciliation.encode, reconciliation_again hbinding, ok_bind]
  simp [ReconciliationBinding.fields, Json.get?, List.lookup_cons, timestamp_again htime]

/-- A record all of whose fields beside the reservation are in the form that the codec gives
them. -/
structure Normal (r : StoredReservation) : Prop where
  nonce : hex32 (some (.string r.nonce)) "nonce" = .ok r.nonce
  solverId : text (some (.string r.solverId)) "solverId" = .ok r.solverId
  solverKey : text (some (.string r.solverKey)) "solverKey" = .ok r.solverKey
  spreadBps : spread (some (.number r.spreadBps)) = .ok r.spreadBps
  sellToken : text (some (.string r.sellToken)) "sellToken" = .ok r.sellToken
  sellAmount : amount (some (.bigint r.sellAmount)) "sellAmount" = .ok r.sellAmount
  buyToken : text (some (.string r.buyToken)) "buyToken" = .ok r.buyToken
  grossBuyAmount :
    amount (some (.bigint r.grossBuyAmount)) "grossBuyAmount" = .ok r.grossBuyAmount
  buyAmount : amount (some (.bigint r.buyAmount)) "buyAmount" = .ok r.buyAmount
  minBuyAmount : amount (some (.bigint r.minBuyAmount)) "minBuyAmount" = .ok r.minBuyAmount
  rfqExpiresAt : timestamp (some (.number r.rfqExpiresAt)) "rfqExpiresAt" = .ok r.rfqExpiresAt
  pricingProvenance :
    text (some (.string r.pricingProvenance)) "pricingProvenance" = .ok r.pricingProvenance
  quote : ∀ q ∈ r.quote,
    text (some (.string q.signedCanonical)) "signedCanonical" = .ok q.signedCanonical ∧
      text (some (.string q.signature)) "signature" = .ok q.signature ∧
      hex32 (some (.string q.quoteDigest)) "quoteDigest" = .ok q.quoteDigest
  settlementDealId : ∀ v ∈ r.settlementDealId,
    lowered (some (.string v)) "settlementDealId" = .ok v
  settlementDeadline : ∀ v ∈ r.settlementDeadline,
    timestamp (some (.number v)) "settlementDeadline" = .ok v
  settlementTicketAddress : ∀ v ∈ r.settlementTicketAddress,
    lowered (some (.string v)) "settlementTicketAddress" = .ok v
  authorityQuarantine : ∀ q ∈ r.authorityQuarantine, authorityQuarantine q.encode = .ok q
  terminalReconciliation : ∀ t ∈ r.terminalReconciliation, terminalReconciliation t.encode = .ok t

theorem Normal.buyAmount_pos (h : Normal r) : 0 < r.buyAmount := by
  have hamount := h.buyAmount
  unfold amount at hamount
  dsimp only at hamount
  split at hamount
  · rename_i hpos
    exact hpos.1
  · cases hamount

theorem whenDefined_ok {read : Json → Except String α} {o : Option α}
    (h : whenDefined value read = .ok o) : ∀ x ∈ o, ∃ v, read v = .ok x := by
  cases value with
  | none =>
    cases h
    simp
  | some v =>
    simp only [whenDefined] at h
    cases hv : read v with
    | error e =>
      rw [hv] at h
      cases h
    | ok x =>
      rw [hv] at h
      cases h
      intro y hy
      cases hy
      exact ⟨v, hv⟩

/-- An optional field is read back when its value is. -/
theorem whenDefined_map {encode : α → Json} {read : Json → Except String α} {o : Option α}
    (h : ∀ x ∈ o, read (encode x) = .ok x) : whenDefined (o.map encode) read = .ok o := by
  cases o with
  | none => rfl
  | some x =>
    have hx := h x rfl
    simp only [Option.map_some, whenDefined, hx]
    rfl

/-- What the codec accepts is in its form, and its reservation passes the checks. -/
theorem decode_ok {input : Json} (h : decodeStoredMakerReservation input = .ok r) :
    assertReservation r.reservation = .ok () ∧
      (∃ c, canonicalMakerReservation r.reservation = .ok c) ∧ Normal r := by
  simp only [decodeStoredMakerReservation, bind_ok, pure_ok] at h
  obtain ⟨_, -, _, -, _, hreservation, c, hcanonical, _, hspread, _, -, _, hnonce, _, hsolverId, _,
    hsolverKey, _, hsellToken, _, hsellAmount, _, hbuyToken, _, hgross, _, hbuyAmount, _, hmin, _,
    hexpires, _, hprovenance, _, hquote, _, hdeal, _, hdeadline, _, hticket, _, hquarantine, _,
    hterminal, rfl⟩ := h
  refine ⟨assertMakerReservation_ok hreservation, ⟨c, hcanonical⟩, ?_⟩
  exact
    { nonce := hex32_again hnonce
      solverId := text_again hsolverId
      solverKey := text_again hsolverKey
      spreadBps := spread_again hspread
      sellToken := text_again hsellToken
      sellAmount := amount_again hsellAmount
      buyToken := text_again hbuyToken
      grossBuyAmount := amount_again hgross
      buyAmount := amount_again hbuyAmount
      minBuyAmount := amount_again hmin
      rfqExpiresAt := timestamp_again hexpires
      pricingProvenance := text_again hprovenance
      quote := by
        intro q hq
        obtain ⟨v, hv⟩ := whenDefined_ok hquote q hq
        simp only [bind_ok, pure_ok] at hv
        obtain ⟨_, hcanonical, _, hsignature, _, hdigest, rfl⟩ := hv
        exact ⟨text_again hcanonical, text_again hsignature, hex32_again hdigest⟩
      settlementDealId := fun v hv =>
        have ⟨_, hread⟩ := whenDefined_ok hdeal v hv
        lowered_again hread
      settlementDeadline := fun v hv =>
        have ⟨_, hread⟩ := whenDefined_ok hdeadline v hv
        timestamp_again hread
      settlementTicketAddress := fun v hv =>
        have ⟨_, hread⟩ := whenDefined_ok hticket v hv
        lowered_again hread
      authorityQuarantine := fun q hq =>
        have ⟨_, hread⟩ := whenDefined_ok hquarantine q hq
        authorityQuarantine_again hread
      terminalReconciliation := fun t ht =>
        have ⟨_, hread⟩ := whenDefined_ok hterminal t ht
        terminalReconciliation_again hread }

theorem checkFields_encodeStored (r : StoredReservation) (missing unsupported : String → String) :
    checkFields r.encode requiredFields optionalFields missing unsupported = .ok () := by
  apply checkFields_ok
  · simp [requiredFields, StoredReservation.encode, Json.get?, List.lookup_cons]
  · simp [requiredFields, optionalFields, StoredReservation.encode, Json.keys,
      Json.map_fst_optional_subset]

theorem signedQuote_encode (h : Normal r) : signedQuote r.encode = .ok r.quote := by
  unfold signedQuote
  simp only [StoredReservation.encode, Json.get?, List.lookup_cons, Json.lookup_optional_append,
    Json.lookup_optional]
  cases hquote : r.quote with
  | none => simp [whenDefined]
  | some q =>
    obtain ⟨hcanonical, hsignature, hdigest⟩ := h.quote q hquote
    simp [whenDefined, hcanonical, hsignature, hdigest, ok_bind]
    rfl

/-- A record in the form of the codec is read back as it was stored, if its reservation passes the
checks. -/
theorem decode_encode_eq (h : Normal r) :
    decodeStoredMakerReservation r.encode = (do
      assertReservation r.reservation
      let _ ← canonicalMakerReservation r.reservation
      return r) := by
  have hdeal : whenDefined (r.settlementDealId.map .string)
      (fun v => lowered (some v) "settlementDealId") = .ok r.settlementDealId :=
    whenDefined_map h.settlementDealId
  have hdeadline : whenDefined (r.settlementDeadline.map .number)
      (fun v => timestamp (some v) "settlementDeadline") = .ok r.settlementDeadline :=
    whenDefined_map h.settlementDeadline
  have hticket : whenDefined (r.settlementTicketAddress.map .string)
      (fun v => lowered (some v) "settlementTicketAddress") = .ok r.settlementTicketAddress :=
    whenDefined_map h.settlementTicketAddress
  unfold decodeStoredMakerReservation
  rw [checkFields_encodeStored, throwIf_neg (by simp [isObject, StoredReservation.encode]),
    signedQuote_encode h]
  simp only [StoredReservation.encode, Json.get?, List.lookup_cons, Json.lookup_optional_append,
    Json.lookup_optional]
  simp [assertMakerReservation_encode, ok_bind, throwIf_neg, h.nonce, h.solverId,
    h.solverKey, h.spreadBps, h.sellToken, h.sellAmount, h.buyToken, h.grossBuyAmount, h.buyAmount,
    h.minBuyAmount, h.rfqExpiresAt, h.pricingProvenance, hdeal, hdeadline, hticket,
    whenDefined_map h.authorityQuarantine, whenDefined_map h.terminalReconciliation]
  rfl

/-- Reading a stored record back gives that record, or an error. -/
theorem eq_of_decode_encode {r' : StoredReservation} (h : Normal r)
    (hread : decodeStoredMakerReservation r.encode = .ok r') :
    r' = r ∧ assertReservation r.reservation = .ok () := by
  rw [decode_encode_eq h] at hread
  simp only [bind_ok, pure_ok] at hread
  obtain ⟨_, hvalid, _, -, heq⟩ := hread
  exact ⟨heq, hvalid⟩

/-- What is accepted is read back as the same record after it is stored. -/
theorem decode_encode {input : Json} (h : decodeStoredMakerReservation input = .ok r) :
    decodeStoredMakerReservation r.encode = .ok r := by
  obtain ⟨hvalid, ⟨c, hcanonical⟩, hnormal⟩ := decode_ok h
  rw [decode_encode_eq hnormal, hvalid, ok_bind, hcanonical]
  rfl

/-! ## Spelling -/

def ReconciliationBinding.normal (b : ReconciliationBinding) : ReconciliationBinding :=
  { b with attemptId := trim b.attemptId, authorityDigest := toLowerCase (trim b.authorityDigest) }

def SignedQuote.normal (q : SignedQuote) : SignedQuote :=
  ⟨trim q.signedCanonical, trim q.signature, toLowerCase (trim q.quoteDigest)⟩

/-- The record with its texts in the form that the codec gives them. -/
def StoredReservation.normal (r : StoredReservation) : StoredReservation :=
  { r with
    nonce := toLowerCase (trim r.nonce)
    solverId := trim r.solverId, solverKey := trim r.solverKey
    sellToken := trim r.sellToken, buyToken := trim r.buyToken
    pricingProvenance := trim r.pricingProvenance
    quote := r.quote.map SignedQuote.normal
    settlementDealId := r.settlementDealId.map fun v => toLowerCase (trim v)
    settlementTicketAddress := r.settlementTicketAddress.map fun v => toLowerCase (trim v)
    authorityQuarantine := r.authorityQuarantine.map fun q => { q with binding := q.binding.normal }
    terminalReconciliation :=
      r.terminalReconciliation.map fun t => { t with binding := t.binding.normal } }

theorem text_string_ok (h : text (some (.string s)) label = .ok t) : t = trim s := by
  obtain ⟨u, hu, -, ht⟩ := text_ok_iff.mp h
  cases hu
  exact ht

theorem lowered_string_ok (h : lowered (some (.string s)) label = .ok t) :
    t = toLowerCase (trim s) := by
  obtain ⟨u, hu, rfl⟩ := lowered_ok_iff.mp h
  rw [text_string_ok hu]

theorem hex32_string_ok (h : hex32 (some (.string s)) label = .ok t) :
    t = toLowerCase (trim s) := lowered_string_ok (hex32_ok_iff.mp h).1

theorem amount_bigint_ok {m : Int} (h : amount (some (.bigint n)) label = .ok m) : m = n := by
  unfold amount at h
  dsimp only at h
  split at h
  · cases h
    rfl
  · cases h

theorem timestamp_number_ok {m : Int} (h : timestamp (some (.number n)) label = .ok m) : m = n :=
  (requireTimestamp_ok_iff.mp h).2.2

theorem spread_number_ok {m : Int} (h : spread (some (.number n)) = .ok m) : m = n := by
  unfold spread at h
  dsimp only at h
  split at h
  · cases h
    rfl
  · cases h

theorem whenDefined_some_ok {v : Json} {read : Json → Except String α} {o : Option α}
    (h : whenDefined (some v) read = .ok o) : ∃ x, read v = .ok x ∧ o = some x := by
  simp only [whenDefined] at h
  cases hv : read v with
  | error e =>
    rw [hv] at h
    cases h
  | ok x =>
    rw [hv] at h
    cases h
    exact ⟨x, rfl, rfl⟩

/-- An optional field is read as what is made of its value. -/
theorem whenDefined_map_ok {β : Type} {encode : α → Json} {read : Json → Except String β}
    {f : α → β} {o : Option α} {p : Option β} (hread : ∀ x y, read (encode x) = .ok y → y = f x)
    (h : whenDefined (o.map encode) read = .ok p) : p = o.map f := by
  cases o with
  | none =>
    cases h
    rfl
  | some x =>
    obtain ⟨y, hy, rfl⟩ := whenDefined_some_ok h
    rw [hread x y hy]
    rfl

theorem reconciliation_fields_ok {b c : ReconciliationBinding} {rest : List (String × Json)}
    (h : reconciliation (.object (b.fields ++ rest)) label = .ok c) : c = b.normal := by
  simp only [reconciliation, bind_ok, pure_ok] at h
  obtain ⟨_, -, outcome', houtcome, _, hattempt, _, hdigest, _, hrevision, _, hfence, rfl⟩ := h
  simp only [ReconciliationBinding.fields, Json.get?, List.cons_append, List.lookup_cons] at *
  have houtcome' := (outcome_name b.outcome label).symm.trans houtcome
  cases houtcome'
  rw [text_string_ok hattempt, hex32_string_ok hdigest, timestamp_number_ok hrevision,
    amount_bigint_ok hfence]
  rfl

theorem authorityQuarantine_encode_ok {q p : AuthorityQuarantine}
    (h : authorityQuarantine q.encode = .ok p) : p = { q with binding := q.binding.normal } := by
  simp only [authorityQuarantine, bind_ok, pure_ok] at h
  obtain ⟨b, hbinding, reason, hreason, time, htime, rfl⟩ := h
  have hb := reconciliation_fields_ok hbinding
  simp only [AuthorityQuarantine.encode, ReconciliationBinding.fields, Json.get?, List.cons_append,
    List.nil_append, List.lookup_cons] at hreason htime
  have hreason' := (quarantineReason_name q.reason).symm.trans hreason
  cases hreason'
  rw [hb, timestamp_number_ok htime]

theorem terminalReconciliation_encode_ok {t u : TerminalReconciliation}
    (h : terminalReconciliation t.encode = .ok u) : u = { t with binding := t.binding.normal } := by
  simp only [terminalReconciliation, bind_ok, pure_ok] at h
  obtain ⟨b, hbinding, time, htime, rfl⟩ := h
  have hb := reconciliation_fields_ok hbinding
  simp only [TerminalReconciliation.encode, ReconciliationBinding.fields, Json.get?,
    List.cons_append, List.nil_append, List.lookup_cons] at htime
  rw [hb, timestamp_number_ok htime]

/-- What stands in the optional fields of a stored record. -/
theorem get?_encode_optional (r : StoredReservation) :
    r.encode.get? "signedCanonical" = r.quote.map (fun q => .string q.signedCanonical) ∧
    r.encode.get? "signature" = r.quote.map (fun q => .string q.signature) ∧
    r.encode.get? "quoteDigest" = r.quote.map (fun q => .string q.quoteDigest) ∧
    r.encode.get? "settlementDealId" = r.settlementDealId.map .string ∧
    r.encode.get? "settlementDeadline" = r.settlementDeadline.map .number ∧
    r.encode.get? "settlementTicketAddress" = r.settlementTicketAddress.map .string ∧
    r.encode.get? "authorityQuarantine" =
      r.authorityQuarantine.map AuthorityQuarantine.encode ∧
    r.encode.get? "terminalReconciliation" =
      r.terminalReconciliation.map TerminalReconciliation.encode := by
  simp [StoredReservation.encode, Json.get?, List.lookup_cons, Json.lookup_optional_append,
    Json.lookup_optional]

theorem signedQuote_encode_ok {q : Option SignedQuote} (h : signedQuote r.encode = .ok q) :
    q = r.quote.map SignedQuote.normal := by
  obtain ⟨hcanonical, hsignature, hdigest, -⟩ := get?_encode_optional r
  unfold signedQuote at h
  rw [hcanonical, hsignature, hdigest] at h
  cases hquote : r.quote with
  | none =>
    rw [hquote] at h
    cases h
    rfl
  | some s =>
    rw [hquote] at h
    obtain ⟨q', hread, rfl⟩ := whenDefined_some_ok h
    simp only [Option.map_some, bind_ok, pure_ok] at hread
    obtain ⟨_, hcanonical, _, hsignature, _, hdigest, rfl⟩ := hread
    rw [text_string_ok hcanonical, text_string_ok hsignature, hex32_string_ok hdigest]
    rfl

/-- What a stored record is read back as: the record with its texts normalized. -/
theorem decode_encode_ok {r' : StoredReservation}
    (h : decodeStoredMakerReservation r.encode = .ok r') :
    r' = r.normal ∧ assertReservation r.reservation = .ok () ∧
      (∃ c, canonicalMakerReservation r.reservation = .ok c) ∧ Normal r' := by
  have hnormal := (decode_ok h).2.2
  obtain ⟨-, -, -, hdeal, hdeadline, hticket, hquarantine, hterminal⟩ := get?_encode_optional r
  simp only [decodeStoredMakerReservation, hdeal, hdeadline, hticket, hquarantine, hterminal] at h
  simp only [StoredReservation.encode, Json.get?, List.lookup_cons, String.reduceBEq,
    Option.getD_some, assertMakerReservation_encode, bind_ok, pure_ok] at h
  obtain ⟨_, -, _, -, a, ⟨_, hvalid, rfl⟩, c, hcanonical, _, hspread, _, -, _, hnonce, _, hsolverId,
    _, hsolverKey, _, hsellToken, _, hsellAmount, _, hbuyToken, _, hgross, _, hbuyAmount, _, hmin,
    _, hexpires, _, hprovenance, _, hquote, _, hdeal, _, hdeadline, _, hticket, _, hquarantine, _,
    hterminal, rfl⟩ := h
  refine ⟨?_, hvalid, ⟨c, hcanonical⟩, hnormal⟩
  rw [hex32_string_ok hnonce, text_string_ok hsolverId, text_string_ok hsolverKey,
    spread_number_ok hspread, text_string_ok hsellToken, amount_bigint_ok hsellAmount,
    text_string_ok hbuyToken, amount_bigint_ok hgross, amount_bigint_ok hbuyAmount,
    amount_bigint_ok hmin, timestamp_number_ok hexpires, text_string_ok hprovenance,
    signedQuote_encode_ok hquote, whenDefined_map_ok (fun _ _ h => lowered_string_ok h) hdeal,
    whenDefined_map_ok (fun _ _ h => timestamp_number_ok h) hdeadline,
    whenDefined_map_ok (fun _ _ h => lowered_string_ok h) hticket,
    whenDefined_map_ok (fun _ _ h => authorityQuarantine_encode_ok h) hquarantine,
    whenDefined_map_ok (fun _ _ h => terminalReconciliation_encode_ok h) hterminal, Option.map_id']
  rfl

end App20.Reservation
