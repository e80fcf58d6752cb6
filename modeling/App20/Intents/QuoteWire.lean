import App20.Intents.Mids

/-!
# Quotes on the wire

The codec of quotes of version 3. The pattern of the nonce is matched against the text that
JavaScript makes of the field, which is that of the nonce also for arrays of one item around it;
the decoder keeps these arrays.

* `quoteV3Codec_faithful`: the codec of quotes.
-/

namespace App20.Intents

open App20.Lib App20.Domain
open App20.Reservation (isObject checkFields checkFields_ok requireText requireDigest
  requireText_again requireDigest_again maxSafeInteger)

/-! ## Nonces -/

def nestedText : Nat → Text → Tree
  | 0, s => .text s
  | depth + 1, s => .array [nestedText depth s]

def nestedString : Nat → Text → Json
  | 0, s => .string s
  | depth + 1, s => .array [nestedString depth s]

/-- The arrays around a text. What is no such text never matches the pattern of the nonce. -/
def readNested : Json → Nat × Text
  | .string s => (0, s)
  | .array [x] => ((readNested x).1 + 1, (readNested x).2)
  | _ => (0, [])

theorem readNested_nestedString (depth : Nat) (s : Text) :
    readNested (nestedString depth s) = (depth, s) := by
  induction depth with
  | zero => rfl
  | succ depth ih =>
    rw [nestedString, readNested, ih]

theorem nestedText_inj {m n : Nat} {s t : Text} (h : nestedText m s = nestedText n t) :
    m = n ∧ s = t := by
  induction m generalizing n with
  | zero =>
    cases n with
    | zero => exact ⟨rfl, Tree.text.inj h⟩
    | succ n => cases h
  | succ m ih =>
    cases n with
    | zero => cases h
    | succ n =>
      obtain ⟨hmn, hst⟩ := ih (List.cons.inj (Tree.array.inj h)).1
      exact ⟨congrArg (· + 1) hmn, hst⟩

/-! ## Schedules -/

def PriceSchedulePoint.wire (p : PriceSchedulePoint) : Json :=
  .object [("a", .string (decimal p.a)), ("b", .string (decimal p.b))]

def decodePoint (index : Nat) (point : Json) : Except String PriceSchedulePoint := do
  throwIf (isObject point = false)
    ("Quote v3 schedule point " ++ toString index ++ " must be an object.")
  checkFields point ["a", "b"] []
    (fun field => "Quote v3 schedule point " ++ toString index ++ "." ++ field ++ " is required.")
    (fun field => "Quote v3 schedule point field " ++ field ++ " is unsupported.")
  let a ← wireAmount (point.get? "a")
    "Quote v3 wire schedule values must be canonical decimal strings."
  let b ← wireAmount (point.get? "b")
    "Quote v3 wire schedule values must be canonical decimal strings."
  return ⟨a, b⟩

/-- The points from the one at `index` on. -/
def decodePoints (index : Nat) : List Json → Except String (List PriceSchedulePoint)
  | [] => .ok []
  | point :: points => do
    let first ← decodePoint index point
    let rest ← decodePoints (index + 1) points
    return first :: rest

def decodeSchedule (value : Option Json) : Except String (List PriceSchedulePoint) :=
  match value with
  | some (.array points) => do
    let schedule ← decodePoints 0 points
    (assertPriceSchedule schedule).mapError ScheduleError.message
    return schedule
  | _ => .error "Quote v3 wire schedule must be an array."

theorem decodePoint_wire {p : PriceSchedulePoint} (ha : 0 ≤ p.a) (hb : 0 ≤ p.b) (index : Nat) :
    decodePoint index p.wire = .ok p := by
  have hkeys : p.wire.keys = ["a", "b"] := rfl
  have hfirst : p.wire.get? "a" = some (.string (decimal p.a)) := rfl
  have hsecond : p.wire.get? "b" = some (.string (decimal p.b)) := rfl
  simp only [decodePoint, bind_ok, throwIf_ok, pure_ok, exists_const]
  refine ⟨Bool.noConfusion, (), checkFields_ok ?_ ?_, p.a, ?_, p.b, ?_, rfl⟩
  · intro field hfield
    fin_cases hfield <;> rfl
  · rw [hkeys]
    decide
  · rw [hfirst]
    exact wireAmount_decimal ha _
  · rw [hsecond]
    exact wireAmount_decimal hb _

variable {schedule : List PriceSchedulePoint}

theorem decodePoints_wire (h : ∀ p ∈ schedule, 0 ≤ p.a ∧ 0 ≤ p.b) (index : Nat) :
    decodePoints index (schedule.map PriceSchedulePoint.wire) = .ok schedule := by
  induction schedule generalizing index with
  | nil => rfl
  | cons p schedule ih =>
    obtain ⟨ha, hb⟩ := h p List.mem_cons_self
    simp only [List.map_cons, decodePoints, bind_ok, pure_ok]
    refine ⟨p, decodePoint_wire ha hb index, schedule, ?_, rfl⟩
    exact ih (fun q hq => h q (List.mem_cons_of_mem _ hq)) _

theorem canonicalSchedule_ok_iff {canonical : List PriceSchedulePoint} :
    canonicalSchedule schedule = .ok canonical ↔ Accepted schedule ∧ canonical = schedule := by
  simp only [canonicalSchedule, bind_ok, pure_ok]
  rw [← assertPriceSchedule_ok_iff]
  cases assertPriceSchedule schedule with
  | error | ok => simp [Except.mapError]

theorem decodeSchedule_wire (h : Accepted schedule) :
    decodeSchedule (some (.array (schedule.map PriceSchedulePoint.wire))) = .ok schedule := by
  have hpoints : ∀ p ∈ schedule, 0 ≤ p.a ∧ 0 ≤ p.b := by
    intro p hp
    obtain ⟨⟨ha, -⟩, hb, -⟩ := h.values p hp
    exact ⟨ha.le, hb.le⟩
  simp only [decodeSchedule, bind_ok, pure_ok]
  refine ⟨schedule, decodePoints_wire hpoints 0, (), ?_, rfl⟩
  rw [(assertPriceSchedule_ok_iff schedule).mpr h]
  rfl

/-! ## Quotes -/

/-- A quote with the arrays around its nonce. -/
structure WireQuoteV3 where
  quote : SolverQuoteV3
  nonceDepth : Nat

/-- A canonical body with the arrays around its nonce. -/
structure WireQuoteBody where
  body : UnsignedSolverQuoteV3
  nonceDepth : Nat

/-- `canonicalBody` of quotes that were read. -/
def canonicalWireQuote (value : WireQuoteV3) : Except String WireQuoteBody := do
  let body ← canonicalQuoteV3 value.quote.toUnsignedSolverQuoteV3
  return ⟨body, value.nonceDepth⟩

/-- What is written of a canonical quote. -/
def WireQuoteBody.tree (b : WireQuoteBody) : Tree :=
  .object [field "buyToken" (.text b.body.buyToken), field "domain" (.text b.body.domain),
    field "escrowAddress" (.text b.body.escrowAddress), field "helper" (.text b.body.helper),
    field "lockExpiresAt" (.number b.body.lockExpiresAt), field "lockId" (.text b.body.lockId),
    field "lockTicket" (.text b.body.lockTicket),
    field "lockTransactionHash" (.text b.body.lockTransactionHash),
    field "nonce" (nestedText b.nonceDepth b.body.nonce), field "pool" (.text b.body.pool),
    field "pricingProvenance" (.text b.body.pricingProvenance),
    field "quoteExpiresAt" (.number b.body.quoteExpiresAt),
    field "quoteKeyId" (.text b.body.quoteKeyId), field "quotedAt" (.number b.body.quotedAt),
    field "rfqDigest" (.text b.body.rfqDigest), field "rfqFelt" (.text b.body.rfqFelt),
    field "schedule" (.array (b.body.schedule.map PriceSchedulePoint.tree)),
    field "sellToken" (.text b.body.sellToken), field "solverId" (.text b.body.solverId),
    field "spreadBps" (.number b.body.spreadBps), field "version" (.number b.body.version)]

theorem WireQuoteBody.tree_injective : Function.Injective WireQuoteBody.tree := by
  intro x y h
  obtain ⟨⟨⟩, _⟩ := x
  obtain ⟨⟨⟩, _⟩ := y
  simp only [WireQuoteBody.tree, field, Tree.object.injEq, List.cons.injEq, Prod.mk.injEq,
    Tree.text.injEq, Tree.number.injEq, Tree.array.injEq,
    (List.map_injective_iff.mpr PriceSchedulePoint.tree_injective).eq_iff, true_and, and_true] at h
  have hnonce := nestedText_inj h.2.2.2.2.2.2.2.2.1
  grind

/-! ## The codec -/

/-- `QUOTE_V3_WIRE_FIELDS` -/
def quoteV3WireFields : List String :=
  ["buyToken", "domain", "escrowAddress", "helper", "lockExpiresAt", "lockId", "lockTicket",
    "lockTransactionHash", "nonce", "pool", "pricingProvenance", "quoteExpiresAt", "quoteKeyId",
    "quotedAt", "rfqDigest", "rfqFelt", "schedule", "sellToken", "signature", "solverId",
    "spreadBps", "version"]

def WireQuoteBody.wire (b : WireQuoteBody) (signature : Text) : Json :=
  .object [("buyToken", .string b.body.buyToken), ("domain", .string b.body.domain),
    ("escrowAddress", .string b.body.escrowAddress), ("helper", .string b.body.helper),
    ("lockExpiresAt", .number b.body.lockExpiresAt), ("lockId", .string b.body.lockId),
    ("lockTicket", .string b.body.lockTicket),
    ("lockTransactionHash", .string b.body.lockTransactionHash),
    ("nonce", nestedString b.nonceDepth b.body.nonce), ("pool", .string b.body.pool),
    ("pricingProvenance", .string b.body.pricingProvenance),
    ("quoteExpiresAt", .number b.body.quoteExpiresAt),
    ("quoteKeyId", .string b.body.quoteKeyId), ("quotedAt", .number b.body.quotedAt),
    ("rfqDigest", .string b.body.rfqDigest), ("rfqFelt", .string b.body.rfqFelt),
    ("schedule", .array (b.body.schedule.map PriceSchedulePoint.wire)),
    ("sellToken", .string b.body.sellToken), ("solverId", .string b.body.solverId),
    ("spreadBps", .number b.body.spreadBps), ("version", .number b.body.version),
    ("signature", .string signature)]

def encodeSolverQuoteV3 (value : WireQuoteV3) : Except String Json := do
  let body ← canonicalWireQuote value
  let signature ← requireSignature value.quote.signature
    "Quote v3 signature must use canonical raw low-S P-256 encoding."
  return body.wire signature

/-- The object that is read, before it is checked. -/
def readQuoteV3 (value : Json) (schedule : List PriceSchedulePoint) (signature : Text) :
    WireQuoteV3 :=
  let nonce := readNested ((value.get? "nonce").getD .null)
  { nonceDepth := nonce.1
    quote :=
      { domain := textOf (value.get? "domain")
        version := numberOf (value.get? "version")
        solverId := textOf (value.get? "solverId")
        quoteKeyId := textOf (value.get? "quoteKeyId")
        nonce := nonce.2
        pool := textOf (value.get? "pool")
        helper := textOf (value.get? "helper")
        escrowAddress := textOf (value.get? "escrowAddress")
        rfqDigest := textOf (value.get? "rfqDigest")
        rfqFelt := textOf (value.get? "rfqFelt")
        sellToken := textOf (value.get? "sellToken")
        buyToken := textOf (value.get? "buyToken")
        schedule
        lockId := textOf (value.get? "lockId")
        lockTicket := textOf (value.get? "lockTicket")
        lockTransactionHash := textOf (value.get? "lockTransactionHash")
        lockExpiresAt := numberOf (value.get? "lockExpiresAt")
        spreadBps := numberOf (value.get? "spreadBps")
        pricingProvenance := textOf (value.get? "pricingProvenance")
        quotedAt := numberOf (value.get? "quotedAt")
        quoteExpiresAt := numberOf (value.get? "quoteExpiresAt")
        signature } }

def readSignature (value : Option Json) : Except String Text :=
  match value with
  | some (.string signature) =>
    requireSignature signature "Quote v3 signature must use canonical raw low-S P-256 encoding."
  | _ => .error "Quote v3 signature is required."

def decodeSolverQuoteV3 (value : Json) : Except String WireQuoteV3 := do
  throwIf (isObject value = false) "Quote v3 wire payload must be an object."
  checkFields value quoteV3WireFields [] (fun field => "Quote v3 " ++ field ++ " is required.")
    (fun field => "Quote v3 field " ++ field ++ " is unsupported.")
  let schedule ← decodeSchedule (value.get? "schedule")
  let signature ← readSignature (value.get? "signature")
  let quote := readQuoteV3 value schedule signature
  let _ ← canonicalWireQuote quote
  return quote

def quoteV3Codec : WireCodec String WireQuoteV3 Json WireQuoteBody Text where
  body := canonicalWireQuote
  stamp value := requireSignature value.quote.signature
    "Quote v3 signature must use canonical raw low-S P-256 encoding."
  canonical body signature := ⟨{ body.body with signature }, body.nonceDepth⟩
  wire body signature := body.wire signature
  decode := decodeSolverQuoteV3

theorem canonicalQuoteV3_again {quote body : UnsignedSolverQuoteV3}
    (h : canonicalQuoteV3 quote = .ok body) :
    canonicalQuoteV3 body = .ok body ∧ Accepted body.schedule := by
  simp only [canonicalQuoteV3, bind_ok, throwIf_ok, pure_ok, exists_const,
    requireInteger_ok_iff, requireQuotePool, canonicalSchedule_ok_iff] at h ⊢
  obtain ⟨hversion, hnonce, sellToken, hsell, buyToken, hbuy, hdiffer, _, ⟨hlock, rfl⟩, _,
    ⟨hquoted, rfl⟩, _, ⟨hexpires, rfl⟩, hordered, _, ⟨hspread, rfl⟩, hbelow, escrowAddress,
    hescrow, helper, hhelper, lockId, hlockId, lockTicket, hticket, lockTransactionHash, htransaction,
    _, ⟨hpool, rfl⟩, pricingProvenance, hpricing, quoteKeyId, hkey, rfqDigest, hdigest, rfqFelt,
    hfelt, _, ⟨hschedule, rfl⟩, solverId, hsolver, rfl⟩ := h
  exact ⟨⟨hversion, hnonce, sellToken, requireRfqFelt_again hsell _, buyToken,
    requireRfqFelt_again hbuy _, hdiffer, _, ⟨hlock, rfl⟩, _, ⟨hquoted, rfl⟩, _, ⟨hexpires, rfl⟩,
    hordered, _, ⟨hspread, rfl⟩, hbelow, escrowAddress, requireRfqFelt_again hescrow _, helper,
    requireRfqFelt_again hhelper _, lockId, requireRfqFelt_again hlockId _, lockTicket,
    requireRfqFelt_again hticket _, lockTransactionHash, requireRfqFelt_again htransaction _, _,
    ⟨hpool, rfl⟩, pricingProvenance, requireText_again hpricing _, quoteKeyId,
    requireText_again hkey _, rfqDigest, requireDigest_again hdigest _, rfqFelt,
    requireRfqFelt_again hfelt _, _, ⟨hschedule, rfl⟩, solverId, requireText_again hsolver _, rfl⟩,
    hschedule⟩

theorem decodeSolverQuoteV3_wire {body : UnsignedSolverQuoteV3} {depth : Nat} {signature : Text}
    (h : canonicalQuoteV3 body = .ok body) (hschedule : Accepted body.schedule)
    (hsignature : isCanonicalQuoteSignature signature = true) :
    decodeSolverQuoteV3 (WireQuoteBody.wire ⟨body, depth⟩ signature) =
      .ok ⟨{ body with signature }, depth⟩ := by
  have hread : readQuoteV3 (WireQuoteBody.wire ⟨body, depth⟩ signature) body.schedule signature =
      ⟨{ body with signature }, depth⟩ := by
    have hnonce : (WireQuoteBody.wire ⟨body, depth⟩ signature).get? "nonce" =
        some (nestedString depth body.nonce) := rfl
    unfold readQuoteV3
    rw [hnonce, Option.getD_some, readNested_nestedString]
    rfl
  have hkeys : (WireQuoteBody.wire ⟨body, depth⟩ signature).keys = ["buyToken", "domain",
    "escrowAddress", "helper", "lockExpiresAt", "lockId", "lockTicket", "lockTransactionHash",
    "nonce", "pool", "pricingProvenance", "quoteExpiresAt", "quoteKeyId", "quotedAt", "rfqDigest",
    "rfqFelt", "schedule", "sellToken", "solverId", "spreadBps", "version", "signature"] := rfl
  have hpoints : (WireQuoteBody.wire ⟨body, depth⟩ signature).get? "schedule" =
    some (.array (body.schedule.map PriceSchedulePoint.wire)) := rfl
  have hsigned : (WireQuoteBody.wire ⟨body, depth⟩ signature).get? "signature" =
    some (.string signature) := rfl
  simp only [decodeSolverQuoteV3, bind_ok, throwIf_ok, pure_ok, exists_const]
  refine ⟨Bool.noConfusion, (), checkFields_ok ?_ ?_, body.schedule, ?_, signature, ?_,
    ⟨body, depth⟩, ?_, ?_⟩
  · intro field hfield
    fin_cases hfield <;> rfl
  · rw [hkeys]
    decide
  · rw [hpoints]
    exact decodeSchedule_wire hschedule
  · rw [hsigned]
    exact requireSignature_ok_iff.mpr ⟨hsignature, rfl⟩
  · rw [hread]
    simp only [canonicalWireQuote, bind_ok, pure_ok]
    exact ⟨body, h, rfl⟩
  · exact hread.symm

theorem quoteV3Codec_faithful : quoteV3Codec.Faithful where
  read := by
    intro value body signature h
    have hbody : canonicalWireQuote value = .ok body := h.body
    simp only [canonicalWireQuote, bind_ok, pure_ok] at hbody
    obtain ⟨unsigned, hunsigned, rfl⟩ := hbody
    obtain ⟨hagain, hschedule⟩ := canonicalQuoteV3_again hunsigned
    obtain ⟨hcanonical, rfl⟩ := requireSignature_ok_iff.mp h.stamp
    refine ⟨decodeSolverQuoteV3_wire hagain hschedule hcanonical, ?_,
      requireSignature_ok_iff.mpr ⟨hcanonical, rfl⟩⟩
    show canonicalWireQuote _ = _
    simp only [canonicalWireQuote, bind_ok, pure_ok]
    exact ⟨unsigned, hagain, rfl⟩
  accepted := by
    intro w value h
    have h' : decodeSolverQuoteV3 w = .ok value := h
    simp only [decodeSolverQuoteV3, bind_ok, pure_ok] at h'
    obtain ⟨_, -, _, -, schedule, -, signature, hsignature, body, hbody, rfl⟩ := h'
    refine ⟨body, signature, hbody, ?_⟩
    unfold readSignature at hsignature
    split at hsignature
    · obtain ⟨hcanonical, rfl⟩ := requireSignature_ok_iff.mp hsignature
      exact requireSignature_ok_iff.mpr ⟨hcanonical, rfl⟩
    · cases hsignature

end App20.Intents
