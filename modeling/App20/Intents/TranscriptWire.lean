import App20.Intents.Transcript
import App20.Intents.Wire

/-!
# Transcripts on the wire

The codec of selection transcripts. What is read is canonical; an outcome that is none of the three
is refused while its entry is read.

* `transcriptCodec_faithful`: the codec of transcripts.
-/

namespace App20.Intents

open App20.Lib App20.Domain
open App20.Reservation (isObject checkFields checkFields_ok requireDigest requireDigest_again)

/-! ## Texts -/

theorem TranscriptOutcome.name_injective : Function.Injective TranscriptOutcome.name := by
  intro x y h
  cases x <;> cases y <;> first | rfl | exact absurd h (by decide)

theorem SelectionTranscriptEntryV1.tree_injective :
    Function.Injective SelectionTranscriptEntryV1.tree := by
  intro x y h
  obtain ⟨_, _, _, _, amountX⟩ := x
  obtain ⟨_, _, _, _, amountY⟩ := y
  have hnames : "amountA".toList ≠ "makerId".toList := by decide
  cases amountX with
  | none =>
    cases amountY with
    | none =>
      simp only [SelectionTranscriptEntryV1.tree, field, Option.toList_none, List.map_nil,
        List.nil_append, Tree.object.injEq, List.cons.injEq, Prod.mk.injEq, Tree.text.injEq,
        Tree.number.injEq, TranscriptOutcome.name_injective.eq_iff, true_and, and_true] at h
      obtain ⟨rfl, rfl, rfl, rfl⟩ := h
      rfl
    | some amount =>
      simp only [SelectionTranscriptEntryV1.tree, field, Option.toList_none, Option.toList_some,
        List.map_nil, List.map_cons, List.nil_append, List.cons_append, Tree.object.injEq,
        List.cons.injEq, Prod.mk.injEq] at h
      exact absurd h.1.1.symm hnames
  | some amount =>
    cases amountY with
    | none =>
      simp only [SelectionTranscriptEntryV1.tree, field, Option.toList_none, Option.toList_some,
        List.map_nil, List.map_cons, List.nil_append, List.cons_append, Tree.object.injEq,
        List.cons.injEq, Prod.mk.injEq] at h
      exact absurd h.1.1 hnames
    | some amount' =>
      simp only [SelectionTranscriptEntryV1.tree, field, Option.toList_some, List.map_cons,
        List.map_nil, List.cons_append, List.nil_append, Tree.object.injEq, List.cons.injEq,
        Prod.mk.injEq, Tree.text.injEq, Tree.number.injEq,
        TranscriptOutcome.name_injective.eq_iff, true_and, and_true] at h
      obtain ⟨rfl, rfl, rfl, rfl, rfl⟩ := h
      rfl

theorem TranscriptBody.tree_injective : Function.Injective TranscriptBody.tree := by
  intro x y h
  cases x
  cases y
  simp only [TranscriptBody.tree, field, Tree.object.injEq, List.cons.injEq, Prod.mk.injEq,
    Tree.text.injEq, Tree.number.injEq, Tree.array.injEq,
    (List.map_injective_iff.mpr SelectionTranscriptEntryV1.tree_injective).eq_iff, true_and,
    and_true] at h
  grind

/-! ## Entries -/

def SelectionTranscriptEntryV1.wire (entry : SelectionTranscriptEntryV1) : Json :=
  .object (Json.optional "amountA" (entry.amountA.map .string) ++
    [("makerId", .string entry.makerId), ("outcome", .string entry.outcome.name),
      ("quoteDigest", .string entry.quoteDigest), ("rank", .number entry.rank)])

def readOutcome (value : Option Json) (label : String) : Except String TranscriptOutcome :=
  match [TranscriptOutcome.won, .lost, .refused].find? fun o => o.name = textOf value with
  | some outcome => .ok outcome
  | none => .error (label ++ ".outcome is unsupported.")

def decodeEntry (index : Nat) (entry : Json) : Except String SelectionTranscriptEntryV1 := do
  throwIf (isObject entry = false)
    ("Selection transcript entry " ++ toString index ++ " must be an object.")
  checkFields entry ["makerId", "outcome", "quoteDigest", "rank"] ["amountA"]
    (fun field => "Selection transcript entry " ++ toString index ++ "." ++ field ++ " is required.")
    (fun field => "Selection transcript entry field " ++ field ++ " is unsupported.")
  let outcome ← readOutcome (entry.get? "outcome") ("entries[" ++ toString index ++ "]")
  return { makerId := textOf (entry.get? "makerId"), quoteDigest := textOf (entry.get? "quoteDigest"),
           outcome, rank := numberOf (entry.get? "rank"),
           amountA := (entry.get? "amountA").map fun amountA => textOf (some amountA) }

/-- The entries from the one at `index` on. -/
def decodeEntries (index : Nat) : List Json → Except String (List SelectionTranscriptEntryV1)
  | [] => .ok []
  | entry :: entries => do
    let first ← decodeEntry index entry
    let rest ← decodeEntries (index + 1) entries
    return first :: rest

theorem decodeEntry_wire (entry : SelectionTranscriptEntryV1) (index : Nat) :
    decodeEntry index entry.wire = .ok entry := by
  have hget : ∀ field, entry.wire.get? field =
      if field = "amountA" then (entry.amountA.map Json.string).or
        ([("makerId", Json.string entry.makerId), ("outcome", .string entry.outcome.name),
          ("quoteDigest", .string entry.quoteDigest),
          ("rank", .number entry.rank)].lookup field)
      else [("makerId", Json.string entry.makerId), ("outcome", .string entry.outcome.name),
        ("quoteDigest", .string entry.quoteDigest), ("rank", .number entry.rank)].lookup field :=
    fun field => Json.lookup_optional_append
  have hmaker : entry.wire.get? "makerId" = some (.string entry.makerId) := hget _
  have houtcome : entry.wire.get? "outcome" = some (.string entry.outcome.name) := hget _
  have hdigest : entry.wire.get? "quoteDigest" = some (.string entry.quoteDigest) := hget _
  have hrank : entry.wire.get? "rank" = some (.number entry.rank) := hget _
  have hamount : entry.wire.get? "amountA" = entry.amountA.map Json.string :=
    (hget _).trans (Option.or_none)
  have hkeys : entry.wire.keys = (Json.optional "amountA" (entry.amountA.map .string)).map Prod.fst ++
      ["makerId", "outcome", "quoteDigest", "rank"] := List.map_append
  simp only [decodeEntry, bind_ok, throwIf_ok, pure_ok, exists_const]
  refine ⟨Bool.noConfusion, (), checkFields_ok ?_ ?_, entry.outcome, ?_, ?_⟩
  · intro field hfield
    fin_cases hfield
    · exact congrArg Option.isNone hmaker
    · exact congrArg Option.isNone houtcome
    · exact congrArg Option.isNone hdigest
    · exact congrArg Option.isNone hrank
  · rw [hkeys]
    intro field hfield
    rcases List.mem_append.mp hfield with hfield | hfield
    · exact List.mem_append_right _ (Json.map_fst_optional_subset List.mem_cons_self hfield)
    · exact List.mem_append_left _ hfield
  · rw [houtcome]
    cases entry.outcome <;> rfl
  · rw [hmaker, hdigest, hrank, hamount]
    cases entry with
    | mk makerId quoteDigest outcome rank amountA => cases amountA <;> rfl

theorem decodeEntries_wire (entries : List SelectionTranscriptEntryV1) (index : Nat) :
    decodeEntries index (entries.map SelectionTranscriptEntryV1.wire) = .ok entries := by
  induction entries generalizing index with
  | nil => rfl
  | cons entry entries ih =>
    simp only [List.map_cons, decodeEntries, bind_ok, pure_ok]
    exact ⟨entry, decodeEntry_wire entry index, entries, ih _, rfl⟩

/-! ## The codec -/

/-- `TRANSCRIPT_FIELDS` -/
def transcriptFields : List String :=
  ["bucket", "clearingUnitPriceE18", "createdAt", "digest", "domain", "entries", "rfqDigest",
    "rule", "version"]

def TranscriptBody.wire (body : TranscriptBody) (digest : Text) : Json :=
  .object [
    ("bucket", .object [("max", .string body.bucketMax), ("min", .string body.bucketMin)]),
    ("clearingUnitPriceE18", .string body.clearingUnitPriceE18),
    ("createdAt", .number body.createdAt), ("domain", .string body.domain),
    ("entries", .array (body.entries.map SelectionTranscriptEntryV1.wire)),
    ("rfqDigest", .string body.rfqDigest), ("rule", .string body.rule),
    ("version", .number body.version), ("digest", .string digest)]

def encodeSelectionTranscript (transcript : SelectionTranscriptV1) : Except String Json := do
  let body ← canonicalTranscript transcript.toTranscriptBody
  let digest ← requireDigest transcript.digest "digest"
  return body.wire digest

def decodeBucket (bucket : Json) : Except String (Text × Text) := do
  throwIf (isObject bucket = false) "Selection transcript bucket must be an object."
  checkFields bucket ["max", "min"] []
    (fun field => "Selection transcript bucket." ++ field ++ " is required.")
    (fun field => "Selection transcript bucket field " ++ field ++ " is unsupported.")
  return (textOf (bucket.get? "min"), textOf (bucket.get? "max"))

def decodeTranscriptEntries (value : Option Json) :
    Except String (List SelectionTranscriptEntryV1) :=
  match value with
  | some (.array entries) => decodeEntries 0 entries
  | _ => .error "Selection transcript entries must be an array."

/-- The object that is read, before it is checked. -/
def readTranscript (value : Json) (bucket : Text × Text)
    (entries : List SelectionTranscriptEntryV1) : TranscriptBody where
  version := numberOf (value.get? "version")
  domain := textOf (value.get? "domain")
  rfqDigest := textOf (value.get? "rfqDigest")
  rule := textOf (value.get? "rule")
  bucketMin := bucket.1
  bucketMax := bucket.2
  createdAt := numberOf (value.get? "createdAt")
  entries := entries
  clearingUnitPriceE18 := textOf (value.get? "clearingUnitPriceE18")

def decodeSelectionTranscript (value : Json) : Except String SelectionTranscriptV1 := do
  throwIf (isObject value = false) "Selection transcript wire payload must be an object."
  checkFields value transcriptFields []
    (fun field => "Selection transcript " ++ field ++ " is required.")
    (fun field => "Selection transcript field " ++ field ++ " is unsupported.")
  let bucket ← decodeBucket ((value.get? "bucket").getD .null)
  let entries ← decodeTranscriptEntries (value.get? "entries")
  let body ← canonicalTranscript (readTranscript value bucket entries)
  let digest ← requireDigest (textOf (value.get? "digest")) "digest"
  return { body with digest }

def transcriptCodec : WireCodec String SelectionTranscriptV1 Json TranscriptBody Text where
  body transcript := canonicalTranscript transcript.toTranscriptBody
  stamp transcript := requireDigest transcript.digest "digest"
  canonical body digest := { body with digest }
  wire body digest := body.wire digest
  decode := decodeSelectionTranscript

theorem decodeSelectionTranscript_wire {body : TranscriptBody} {digest : Text}
    (h : canonicalTranscript body = .ok body) (hdigest : requireDigest digest "digest" = .ok digest) :
    decodeSelectionTranscript (body.wire digest) = .ok { body with digest } := by
  have hkeys : (body.wire digest).keys = ["bucket", "clearingUnitPriceE18", "createdAt", "domain",
    "entries", "rfqDigest", "rule", "version", "digest"] := rfl
  have hentries : (body.wire digest).get? "entries" =
    some (.array (body.entries.map SelectionTranscriptEntryV1.wire)) := rfl
  have hbucket : ((body.wire digest).get? "bucket").getD .null =
    .object [("max", .string body.bucketMax), ("min", .string body.bucketMin)] := rfl
  have hread : readTranscript (body.wire digest) (body.bucketMin, body.bucketMax) body.entries =
    body := rfl
  simp only [decodeSelectionTranscript, bind_ok, throwIf_ok, pure_ok, exists_const]
  refine ⟨Bool.noConfusion, (), checkFields_ok ?_ ?_, (body.bucketMin, body.bucketMax), ?_,
    body.entries, ?_, body, ?_, digest, hdigest, rfl⟩
  · intro field hfield
    fin_cases hfield <;> rfl
  · rw [hkeys]
    decide
  · rw [hbucket]
    rfl
  · rw [hentries]
    exact decodeEntries_wire _ _
  · rw [hread]
    exact h

theorem transcriptCodec_faithful : transcriptCodec.Faithful where
  read := by
    intro transcript body digest h
    have hagain := canonicalTranscript_again h.body
    have hdigest := requireDigest_again h.stamp "digest"
    exact ⟨decodeSelectionTranscript_wire hagain hdigest, hagain, hdigest⟩
  accepted := by
    intro w transcript h
    have h' : decodeSelectionTranscript w = .ok transcript := h
    simp only [decodeSelectionTranscript, bind_ok, pure_ok] at h'
    obtain ⟨_, -, _, -, _, -, _, -, body, hbody, digest, hdigest, rfl⟩ := h'
    exact ⟨body, digest, canonicalTranscript_again hbody, requireDigest_again hdigest _⟩

end App20.Intents
