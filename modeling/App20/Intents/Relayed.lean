import App20.Intents.QuoteWire
import App20.Intents.TranscriptWire

/-!
# Relayed objects

The canonical text of an object is what is signed, and its digest that of this text. Objects that
are sent, read and sent on keep both. The decoders of RFQs, quotes and mids check what they read,
but keep its spelling.

* `relayed_texts`: the four codecs and their texts.
-/

namespace App20.Intents

open App20.Lib App20.Domain

/-! ## Canonical texts -/

section

variable {V B S : Type} (codec : WireCodec String V Json B S) (tree : B → Tree)

def canonicalText (value : V) : Except String Text := do
  let body ← codec.body value
  return (tree body).render

def digestOf (sha256 : Hash) (value : V) : Except String Text := do
  let canonical ← canonicalText codec tree value
  return digestText sha256 canonical

/-- The canonical form of a value has the text, the digest and the encoding of the value. -/
structure SameText (sha256 : Hash) (value canonical : V) (wire : Json) : Prop where
  text : canonicalText codec tree canonical = canonicalText codec tree value
  digest : digestOf codec tree sha256 canonical = digestOf codec tree sha256 value
  encode : codec.encode canonical = .ok wire
  again : codec.decode wire = .ok canonical

/-- A codec whose objects keep their texts. What is sent is read in its canonical form; what is read
can be sent on, and is then read in its canonical form; objects that were read with one text have
one canonical body, and with one stamp as well they are sent as one. -/
structure KeepsTexts : Prop where
  sent : ∀ value body stamp, codec.Has value body stamp → ∀ sha256,
    codec.encode value = .ok (codec.wire body stamp) ∧
      SameText codec tree sha256 value (codec.canonical body stamp) (codec.wire body stamp)
  relayed : ∀ wire value, codec.decode wire = .ok value →
    ∃ body stamp, codec.Has value body stamp ∧ ∀ sha256,
      codec.encode value = .ok (codec.wire body stamp) ∧
        SameText codec tree sha256 value (codec.canonical body stamp) (codec.wire body stamp)
  shared : ∀ wire value wire' value', codec.decode wire = .ok value →
    codec.decode wire' = .ok value' →
    canonicalText codec tree value = canonicalText codec tree value' →
      codec.body value = codec.body value' ∧
        (codec.stamp value = codec.stamp value' → codec.encode value = codec.encode value')

variable {codec tree}

theorem canonicalText_of_has {value : V} {body : B} {stamp : S} (h : codec.Has value body stamp) :
    canonicalText codec tree value = .ok (tree body).render := by
  unfold canonicalText
  rw [h.body]
  rfl

theorem sameText_canonical (h : codec.Faithful) {value : V} {body : B} {stamp : S}
    (hvalue : codec.Has value body stamp) (sha256 : Hash) :
    SameText codec tree sha256 value (codec.canonical body stamp) (codec.wire body stamp) := by
  obtain ⟨hread, hcanonical⟩ := h.read hvalue
  have htext : canonicalText codec tree (codec.canonical body stamp) =
      canonicalText codec tree value :=
    (canonicalText_of_has hcanonical).trans (canonicalText_of_has hvalue).symm
  refine ⟨htext, ?_, hcanonical.encode, hread⟩
  unfold digestOf
  rw [htext]

theorem keepsTexts_of_faithful (h : codec.Faithful) (htree : Function.Injective tree) :
    KeepsTexts codec tree where
  sent value body stamp hvalue sha256 := ⟨hvalue.encode, sameText_canonical h hvalue sha256⟩
  relayed wire value hread := by
    obtain ⟨body, stamp, hvalue⟩ := h.accepted hread
    exact ⟨body, stamp, hvalue, fun sha256 => ⟨hvalue.encode, sameText_canonical h hvalue sha256⟩⟩
  shared wire value wire' value' hread hread' htext := by
    obtain ⟨body, stamp, hvalue⟩ := h.accepted hread
    obtain ⟨body', stamp', hvalue'⟩ := h.accepted hread'
    rw [canonicalText_of_has hvalue, canonicalText_of_has hvalue'] at htext
    have hbody : body = body' := htree (Tree.render_injective (Except.ok.inj htext))
    have hsame : codec.body value = codec.body value' := by
      rw [hvalue.body, hvalue'.body, hbody]
    refine ⟨hsame, fun hstamp => ?_⟩
    unfold WireCodec.encode
    rw [hsame, hstamp]

end

/-! ## The four codecs -/

/-- RFQs, quotes, transcripts and mids keep their canonical texts and digests when they are sent,
read and sent on. -/
theorem relayed_texts :
    KeepsTexts rfqV2Codec PrivateRfqV2.tree ∧ KeepsTexts quoteV3Codec WireQuoteBody.tree ∧
      KeepsTexts transcriptCodec TranscriptBody.tree ∧
      KeepsTexts midCodec UnsignedMakerIndicativeMidV1.tree := by
  refine ⟨?_, ?_, ?_, ?_⟩
  · exact keepsTexts_of_faithful rfqV2Codec_faithful PrivateRfqV2.tree_injective
  · exact keepsTexts_of_faithful quoteV3Codec_faithful WireQuoteBody.tree_injective
  · exact keepsTexts_of_faithful transcriptCodec_faithful TranscriptBody.tree_injective
  · exact keepsTexts_of_faithful midCodec_faithful UnsignedMakerIndicativeMidV1.tree_injective

def spelledMid (makerId : Text) : MakerIndicativeMidV1 where
  version := 1
  domain := makerMidDomain
  makerId := makerId
  quoteKeyId := "q1".toList
  marketId := "STRK_USDC".toList
  midE18 := 20
  observedAt := 1900000000
  validUntil := 1900000060
  signature := '0' :: 'x' :: (List.replicate 63 '0' ++ '1' :: List.replicate 63 '0' ++ ['1'])

/-- A mid whose maker is spelled with a space is read as it is spelled, and otherwise after it was
sent on. Both mids have one canonical text. -/
theorem relayed_spelling :
    ∃ wire wire' value value', decodeMakerMid wire = .ok value ∧
      encodeMakerMid value = .ok wire' ∧ decodeMakerMid wire' = .ok value' ∧ value ≠ value' ∧
      canonicalText midCodec UnsignedMakerIndicativeMidV1.tree value =
        canonicalText midCodec UnsignedMakerIndicativeMidV1.tree value' := by
  have hhas : midCodec.Has (spelledMid " m".toList)
      (spelledMid "m".toList).toUnsignedMakerIndicativeMidV1 (spelledMid "m".toList).signature :=
    ⟨by decide +kernel, by decide +kernel⟩
  refine ⟨(spelledMid " m".toList).toUnsignedMakerIndicativeMidV1.wire
      (spelledMid " m".toList).signature, _, spelledMid " m".toList, spelledMid "m".toList,
    by decide +kernel, hhas.encode, by decide +kernel, by decide +kernel, by decide +kernel⟩

end App20.Intents
