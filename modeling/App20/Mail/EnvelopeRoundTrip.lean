import App20.Mail.Envelope

/-!
# Round trips of envelopes

* `parseCompositeWirePayload_toValue`: a normalized payload is normalized to itself.
* `decodeEnvelope_encodeEnvelope`: what was encoded is decoded.
* `envelope_roundTrip`: both directions, and what cannot be encoded again.
-/

namespace App20.Mail

open App20.Lib App20.Domain
open JsValue (isData isFinite every everyItem everyField string everyItem_iff everyField_iff array)

variable {N : Type} {format : NumberFormat N}

/-! ## Safe values -/

mutual

theorem assertJsonSafe_iff (path : Units) (v : JsValue N) : assertJsonSafe path v = .ok () ↔
    v.every isData = true ∧ v.every isFinite = true := by
  match v with
  | .null | .string _ | .bool _ | .number _ =>
    rw [assertJsonSafe]
    exact ⟨fun _ => ⟨rfl, rfl⟩, fun _ => rfl⟩
  | .nonFinite _ =>
    rw [assertJsonSafe]
    exact ⟨fun h => (by cases h), fun h => (Bool.false_ne_true h.2).elim⟩
  | .hole | .other =>
    rw [assertJsonSafe]
    exact ⟨fun h => (by cases h), fun h => (Bool.false_ne_true h.1).elim⟩
  | .array items =>
    rw [assertJsonSafe, assertItemsSafe_iff, every, every]
    simp only [isData, isFinite, Bool.true_and]
  | .object kind fields =>
    rw [assertJsonSafe, every, every]
    cases kind with
    | plain =>
      rw [throwIf_neg (by decide), ok_bind, throwIf_neg (by decide), ok_bind, assertFieldsSafe_iff]
      simp only [isData, isFinite, decide_true, Bool.true_and]
    | foreign | symbolKeys => exact ⟨fun h => (by cases h), fun h => (Bool.false_ne_true h.1).elim⟩

theorem assertItemsSafe_iff (path : Units) (index : Nat) (items : List (JsValue N)) :
    assertItemsSafe path index items = .ok () ↔ everyItem isData items = true ∧
        everyItem isFinite items = true := by
  match items with
  | [] => exact ⟨fun _ => ⟨rfl, rfl⟩, fun _ => rfl⟩
  | item :: items =>
    by_cases hhole : item = .hole
    · subst hhole
      rw [assertItemsSafe]
      exact ⟨fun h => (by cases h), fun h => (Bool.false_ne_true h.1).elim⟩
    · rw [assertItemsSafe, everyItem, everyItem, Bool.and_eq_true,
        Bool.and_eq_true, bind_ok, exists_unit, assertJsonSafe_iff,
        assertItemsSafe_iff, and_and_and_comm]
      exact hhole

theorem assertFieldsSafe_iff (path : Units) (fields : List (Units × JsValue N)) :
    assertFieldsSafe path fields = .ok () ↔ everyField isData fields = true ∧
        everyField isFinite fields = true := by
  match fields with
  | [] => exact ⟨fun _ => ⟨rfl, rfl⟩, fun _ => rfl⟩
  | field :: fields =>
    rw [assertFieldsSafe, everyField, everyField, Bool.and_eq_true,
      Bool.and_eq_true, bind_ok, exists_unit, assertJsonSafe_iff,
      assertFieldsSafe_iff, and_and_and_comm]

end

/-! ## Properties -/

section Properties

variable {fields : List (Units × JsValue N)} {key other : String} {v : JsValue N}

theorem property_head : property ((text key, v) :: fields) key = some v := by
  unfold property
  rw [List.lookup_cons, beq_self_eq_true]

theorem property_other (h : text key ≠ text other) :
    property ((text other, v) :: fields) key = property fields key := by
  unfold property
  rw [List.lookup_cons, beq_eq_false_iff_ne.mpr h]

theorem property_optional (value : Option (JsValue N)) :
    property (optionalField key value ++ fields) key = value.or (property fields key) := by
  cases value with
  | none => rfl
  | some v => exact property_head

theorem property_optional_other (h : text key ≠ text other) (value : Option (JsValue N)) :
    property (optionalField other value ++ fields) key = property fields key := by
  cases value with
  | none => rfl
  | some v => exact property_other h

theorem mem_of_property (h : property fields key = some v) : ∃ field ∈ fields, field.2 = v := by
  obtain ⟨before, after, rfl, -⟩ := List.lookup_eq_some_iff.mp h
  exact ⟨_, List.mem_append_right _ List.mem_cons_self, rfl⟩

end Properties

theorem objectFields_some {v : JsValue N} {fields : List (Units × JsValue N)}
    (h : objectFields v = some fields) : ∃ kind, v = .object kind fields := by
  unfold objectFields at h
  split at h
  · cases h
    exact ⟨_, rfl⟩
  · cases h

/-! ## Composite payloads -/

/-- A property that holds of the parts of values it holds of. -/
structure Hereditary (P : JsValue N → Prop) : Prop where
  item : ∀ {items : List (JsValue N)}, P (.array items) → ∀ v ∈ items, P v
  field : ∀ {kind : ObjectKind} {fields : List (Units × JsValue N)}, P (.object kind fields) →
    ∀ field ∈ fields, P field.2

theorem Hereditary.property {P : JsValue N → Prop} (h : Hereditary P) {v w : JsValue N}
    {fields : List (Units × JsValue N)} {key : String} (hv : P v)
    (hfields : objectFields v = some fields) (hw : property fields key = some w) : P w := by
  obtain ⟨kind, rfl⟩ := objectFields_some hfields
  obtain ⟨field, hfield, rfl⟩ := mem_of_property hw
  exact h.field hv field hfield

theorem parseAttachments_cons {seen : List Units} {attachment : JsValue N}
    {rest : List (JsValue N)} {attachments : List (Attachment N)} :
    parseAttachments format seen (attachment :: rest) = some attachments ↔
      ∃ fields type payload later, objectFields attachment = some fields ∧
        property fields "type" = some type ∧ property fields "payload" = some payload ∧
        (stringOf format type ∈ attachmentTypes ∧ stringOf format type ∉ seen ∧
          isJsonObject payload = true) ∧
        parseAttachments format (seenAfter seen type) rest = some later ∧
        attachments = ⟨type, payload⟩ :: later := by
  rw [parseAttachments]
  simp only [Option.bind_eq_bind, Option.bind_eq_some_iff, Option.guard_eq_some', Option.pure_def,
    Option.some.injEq, exists_unit]
  constructor
  · rintro ⟨fields, hfields, type, htype, payload, hpayload, hguard, later, hlater, rfl⟩
    exact ⟨fields, type, payload, later, hfields, htype, hpayload, hguard, hlater, rfl⟩
  · rintro ⟨fields, type, payload, later, hfields, htype, hpayload, hguard, hlater, rfl⟩
    exact ⟨fields, hfields, type, htype, payload, hpayload, hguard, later, hlater, rfl⟩

theorem parseAttachments_parts {P : JsValue N → Prop} (hereditary : Hereditary P)
    {seen : List Units} {items : List (JsValue N)} {attachments : List (Attachment N)}
    (h : parseAttachments format seen items = some attachments) (hitems : ∀ v ∈ items, P v) :
    ∀ a ∈ attachments, P a.type ∧ P a.payload := by
  induction items generalizing seen attachments with
  | nil =>
    cases h
    exact fun _ ha => by cases ha
  | cons item items ih =>
    obtain ⟨fields, type, payload, later, hfields, htype, hpayload, -, hlater, rfl⟩ :=
      parseAttachments_cons.mp h
    have hitem := hitems item List.mem_cons_self
    intro a ha
    rcases List.mem_cons.mp ha with rfl | hrest
    · exact ⟨hereditary.property hitem hfields htype, hereditary.property hitem hfields hpayload⟩
    · exact ih hlater (fun v hv => hitems v (List.mem_cons_of_mem item hv)) a hrest

section

variable {seen : List Units} {items : List (JsValue N)} {attachments : List (Attachment N)}
  (h : parseAttachments format seen items = some attachments)

include h

/-- The attachments that were read are read again as they are. -/
theorem parseAttachments_toValue :
    parseAttachments format seen (attachments.map Attachment.toValue) = some attachments := by
  induction items generalizing seen attachments with
  | nil =>
    cases h
    rfl
  | cons item items ih =>
    obtain ⟨fields, type, payload, later, -, -, -, hguard, hlater, rfl⟩ :=
      parseAttachments_cons.mp h
    refine parseAttachments_cons.mpr
      ⟨_, type, payload, later, rfl, property_head, ?_, hguard, ih hlater, rfl⟩
    rw [property_other (by decide), property_head]

theorem length_parseAttachments : attachments.length = items.length := by
  induction items generalizing seen attachments with
  | nil =>
    cases h
    rfl
  | cons item items ih =>
    obtain ⟨fields, type, payload, later, -, -, -, -, hlater, rfl⟩ := parseAttachments_cons.mp h
    rw [List.length_cons, List.length_cons, ih hlater]

end

structure IsComposite (format : NumberFormat N) (fields : List (Units × JsValue N))
    (items : List (JsValue N)) (c : CompositeWirePayload N) : Prop where
  documentId : textProperty fields "documentId" = some c.documentId
  body : textProperty fields "body" = some c.body
  limits : isDocumentId c.documentId = true ∧ c.body.length ≤ 4096
  property : property fields "attachments" = some (.array items)
  bounded : items.length ≤ 4
  attachments : parseAttachments format [] items = some c.attachments
  nonempty : ¬ (isBlank c.body = true ∧ c.attachments = [])
  conversationId : c.conversationId = textProperty fields "conversationId"
  inReplyTo : c.inReplyTo = textProperty fields "inReplyTo"
  senderAuth : c.senderAuth = objectProperty fields "senderAuth"

theorem parseCompositeWirePayload_iff {v : JsValue N} {c : CompositeWirePayload N} :
    parseCompositeWirePayload format v = some c ↔
      ∃ fields items, objectFields v = some fields ∧ IsComposite format fields items c := by
  unfold parseCompositeWirePayload
  simp only [Option.bind_eq_bind, Option.bind_eq_some_iff, Option.guard_eq_some', exists_unit]
  constructor
  · rintro ⟨fields, hfields, documentId, hid, body, hbody, hlimits, h⟩
    split at h
    · rename_i items hitems
      simp only [Option.bind_eq_some_iff, Option.guard_eq_some', Option.pure_def,
        Option.some.injEq, exists_unit] at h
      obtain ⟨hbounded, attachments, hattachments, hnonempty, rfl⟩ := h
      exact ⟨fields, items, hfields, hid, hbody, hlimits, hitems, hbounded, hattachments,
        hnonempty, rfl, rfl, rfl⟩
    · cases h
  · rintro ⟨fields, items, hfields, h⟩
    refine ⟨fields, hfields, c.documentId, h.documentId, c.body, h.body, h.limits, ?_⟩
    rw [h.property]
    simp only [Option.bind_eq_some_iff, Option.guard_eq_some', Option.pure_def, Option.some.injEq,
      exists_unit]
    refine ⟨h.bounded, c.attachments, h.attachments, h.nonempty, ?_⟩
    rw [← h.conversationId, ← h.inReplyTo, ← h.senderAuth]

/-- The properties of a normalized payload. -/
def CompositeWirePayload.fields (c : CompositeWirePayload N) : List (Units × JsValue N) :=
  (text "documentId", .string c.documentId) :: (text "body", .string c.body) ::
    (text "attachments", .array (c.attachments.map Attachment.toValue)) ::
    (optionalField "conversationId" (c.conversationId.map .string) ++
      (optionalField "inReplyTo" (c.inReplyTo.map .string) ++
        (optionalField "senderAuth" c.senderAuth ++ [])))

theorem CompositeWirePayload.toValue_eq (c : CompositeWirePayload N) :
    c.toValue = .object .plain c.fields := by
  unfold toValue fields
  rw [List.append_nil, List.append_assoc, List.append_assoc]
  rfl

theorem textProperty_string {fields : List (Units × JsValue N)} {key : String} {o : Option Units}
    (h : property fields key = o.map string) : textProperty fields key = o := by
  unfold textProperty
  rw [h]
  cases o <;> rfl

theorem parseCompositeWirePayload_toValue {v : JsValue N} {c : CompositeWirePayload N}
    (h : parseCompositeWirePayload format v = some c) :
    parseCompositeWirePayload format c.toValue = some c := by
  obtain ⟨fields, items, -, h⟩ := parseCompositeWirePayload_iff.mp h
  rw [c.toValue_eq]
  refine parseCompositeWirePayload_iff.mpr ⟨c.fields, c.attachments.map Attachment.toValue, rfl, ?_⟩
  have hauth : c.senderAuth.filter isJsonObject = c.senderAuth := by
    rw [h.senderAuth]
    unfold objectProperty
    rw [Option.filter_filter]
    simp only [Bool.and_self]
  refine ⟨?_, ?_, h.limits, ?_, ?_, parseAttachments_toValue h.attachments, h.nonempty, ?_, ?_, ?_⟩
  · exact textProperty_string property_head
  · apply textProperty_string
    unfold CompositeWirePayload.fields
    rw [property_other (by decide)]
    exact property_head
  · unfold CompositeWirePayload.fields
    rw [property_other (by decide), property_other (by decide)]
    exact property_head
  · rw [List.length_map, length_parseAttachments h.attachments]
    exact h.bounded
  · refine (textProperty_string ?_).symm
    unfold CompositeWirePayload.fields
    rw [property_other (by decide), property_other (by decide), property_other (by decide),
      property_optional, property_optional_other (by decide), property_optional_other (by decide)]
    exact Option.or_none
  · refine (textProperty_string ?_).symm
    unfold CompositeWirePayload.fields
    rw [property_other (by decide), property_other (by decide), property_other (by decide),
      property_optional_other (by decide), property_optional, property_optional_other (by decide)]
    exact Option.or_none
  · unfold objectProperty CompositeWirePayload.fields
    rw [property_other (by decide), property_other (by decide), property_other (by decide),
      property_optional_other (by decide), property_optional_other (by decide), property_optional]
    rw [show property ([] : List (Units × JsValue N)) "senderAuth" = none from rfl, Option.or_none,
      hauth]

/-! ## What a normalized payload is made of -/

theorem hereditary_ordered : Hereditary (JsValue.Ordered : JsValue N → Prop) where
  item := fun h => JsValue.orderedItems_iff.mp h
  field := fun h => JsValue.orderedFields_iff.mp h.2

theorem hereditary_data : Hereditary fun v : JsValue N => v.every isData = true where
  item := by
    intro items h
    rw [every, Bool.and_eq_true] at h
    exact everyItem_iff.mp h.2
  field := by
    intro kind fields h
    rw [every, Bool.and_eq_true] at h
    exact everyField_iff.mp h.2

theorem parseCompositeWirePayload_parts {P : JsValue N → Prop} (hereditary : Hereditary P)
    {v : JsValue N} {c : CompositeWirePayload N} (h : parseCompositeWirePayload format v = some c)
    (hv : P v) : (∀ a ∈ c.attachments, P a.type ∧ P a.payload) ∧ ∀ s ∈ c.senderAuth, P s := by
  obtain ⟨fields, items, hfields, h⟩ := parseCompositeWirePayload_iff.mp h
  refine ⟨parseAttachments_parts hereditary h.attachments
    (hereditary.item (hereditary.property hv hfields h.property)), fun s hs => ?_⟩
  rw [h.senderAuth] at hs
  exact hereditary.property hv hfields (Option.filter_eq_some_iff.mp hs).1

theorem CompositeWirePayload.mem_fields {P : JsValue N → Prop} {c : CompositeWirePayload N}
    (hstring : ∀ s, P (.string s)) (hitems : P (.array (c.attachments.map Attachment.toValue)))
    (hauth : ∀ s ∈ c.senderAuth, P s) : ∀ field ∈ c.fields, P field.2 := by
  have htext : ∀ (key : String) (o : Option Units),
      ∀ field ∈ optionalField key (o.map string), P field.2 := by
    intro key o field hfield
    obtain ⟨v, hv, rfl⟩ := List.mem_map.mp hfield
    obtain ⟨s, -, rfl⟩ := Option.map_eq_some_iff.mp (Option.mem_toList.mp hv)
    exact hstring s
  intro field hfield
  unfold CompositeWirePayload.fields at hfield
  simp only [List.mem_cons, List.mem_append, List.not_mem_nil, or_false] at hfield
  rcases hfield with rfl | rfl | rfl | hconversation | hreply | hsender
  · exact hstring _
  · exact hstring _
  · exact hitems
  · exact htext _ _ field hconversation
  · exact htext _ _ field hreply
  · obtain ⟨v, hv, rfl⟩ := List.mem_map.mp hsender
    exact hauth v (Option.mem_toList.mp hv)

theorem optionalField_keys (key : String) (o : Option (JsValue N)) :
    ((optionalField key o).map Prod.fst).Sublist [text key] := by
  cases o with
  | none => exact List.nil_sublist _
  | some v => exact List.Sublist.refl _

theorem CompositeWirePayload.fields_keys (c : CompositeWirePayload N) :
    (c.fields.map Prod.fst).Pairwise Follows := by
  have hkeys : [text "documentId", text "body", text "attachments", text "conversationId",
      text "inReplyTo", text "senderAuth"].Pairwise Follows := by decide +kernel
  refine List.Pairwise.sublist ?_ hkeys
  unfold CompositeWirePayload.fields
  rw [List.append_nil, List.map_cons, List.map_cons, List.map_cons, List.map_append,
    List.map_append]
  exact (((((optionalField_keys _ _).append ((optionalField_keys _ _).append
    (optionalField_keys _ _))).cons_cons _).cons_cons _).cons_cons _)

theorem toValue_ordered {v : JsValue N} {c : CompositeWirePayload N}
    (h : parseCompositeWirePayload format v = some c) (hv : v.Ordered) : c.toValue.Ordered := by
  obtain ⟨hattachments, hauth⟩ := parseCompositeWirePayload_parts hereditary_ordered h hv
  have hkeys : [text "type", text "payload"].Pairwise Follows := by decide +kernel
  rw [c.toValue_eq]
  refine ⟨c.fields_keys, JsValue.orderedFields_iff.mpr
    (c.mem_fields (fun _ => trivial) (JsValue.orderedItems_iff.mpr fun w hw => ?_) hauth)⟩
  obtain ⟨a, ha, rfl⟩ := List.mem_map.mp hw
  exact ⟨hkeys, (hattachments a ha).1, (hattachments a ha).2, trivial⟩

theorem toValue_data {v : JsValue N} {c : CompositeWirePayload N}
    (h : parseCompositeWirePayload format v = some c) (hv : v.every isData = true) :
    c.toValue.every isData = true := by
  obtain ⟨hattachments, hauth⟩ := parseCompositeWirePayload_parts hereditary_data h hv
  have hitems : (array (c.attachments.map Attachment.toValue)).every isData = true := by
    rw [every, Bool.and_eq_true]
    refine ⟨rfl, everyItem_iff.mpr fun w hw => ?_⟩
    obtain ⟨a, ha, rfl⟩ := List.mem_map.mp hw
    unfold Attachment.toValue
    rw [every, everyField, everyField, (hattachments a ha).1, (hattachments a ha).2]
    rfl
  rw [c.toValue_eq, every, Bool.and_eq_true]
  exact ⟨rfl, everyField_iff.mpr
    (CompositeWirePayload.mem_fields (P := fun w => w.every isData = true) (fun _ => rfl)
      hitems hauth)⟩

/-! ## Normalization -/

section

variable {type : EnvelopeType} {payload normalized : JsValue N}
  (h : normalizedPayload format type payload = some normalized)

include h

theorem normalizedPayload_idempotent :
    normalizedPayload format type normalized = some normalized := by
  unfold normalizedPayload at h ⊢
  split at h
  · rename_i hcomposite
    obtain ⟨c, hc, rfl⟩ := Option.map_eq_some_iff.mp h
    rw [if_pos hcomposite, parseCompositeWirePayload_toValue hc]
    rfl
  · rename_i hcomposite
    rw [if_neg hcomposite]

theorem normalizedPayload_object (hobject : isJsonObject payload = true) :
    isJsonObject normalized = true := by
  unfold normalizedPayload at h
  split at h
  · obtain ⟨c, -, rfl⟩ := Option.map_eq_some_iff.mp h
    rfl
  · cases h
    exact hobject

theorem normalizedPayload_ordered (hv : payload.Ordered) : normalized.Ordered := by
  unfold normalizedPayload at h
  split at h
  · obtain ⟨c, hc, rfl⟩ := Option.map_eq_some_iff.mp h
    exact toValue_ordered hc hv
  · cases h
    exact hv

theorem normalizedPayload_data (hv : payload.every isData = true) :
    normalized.every isData = true := by
  unfold normalizedPayload at h
  split at h
  · obtain ⟨c, hc, rfl⟩ := Option.map_eq_some_iff.mp h
    exact toValue_data hc hv
  · cases h
    exact hv

end

/-! ## Encoding and decoding -/

def envelopeSize (format : NumberFormat N) (payload : JsValue N) : Nat :=
  2 + (encodeUtf8 (stringify format payload)).length

theorem encodeEnvelope_ok_iff {type : EnvelopeType} {payload : JsValue N} {bytes : Bytes} :
    encodeEnvelope format type payload = .ok bytes ↔ isJsonObject payload = true ∧ ∃ normalized,
        normalizedPayload format type payload = some normalized ∧
        (normalized.every isData = true ∧ normalized.every isFinite = true) ∧
        ¬ (type = .composite ∧ maxCompositeEnvelopeBytes < envelopeSize format normalized) ∧
        bytes = envelopeVersion :: type.byte :: encodeUtf8 (stringify format normalized) := by
  unfold encodeEnvelope serializeEnvelopePayload envelopeSize
  simp only [bind_ok, throwIf_ok, exists_unit, pure_ok, Bool.not_eq_false]
  constructor
  · rintro ⟨p, ⟨hobject, h⟩, hlimit, rfl⟩
    refine ⟨hobject, ?_⟩
    split at h
    · cases h
    · rename_i normalized hnormalized
      simp only [bind_ok, exists_unit, pure_ok, assertJsonSafe_iff] at h
      obtain ⟨hsafe, rfl⟩ := h
      exact ⟨normalized, hnormalized, hsafe, hlimit, rfl⟩
  · rintro ⟨hobject, normalized, hnormalized, hsafe, hlimit, rfl⟩
    refine ⟨(type.byte, encodeUtf8 (stringify format normalized)), ⟨hobject, ?_⟩, hlimit, rfl⟩
    rw [hnormalized]
    simp only [bind_ok, exists_unit, pure_ok, assertJsonSafe_iff]
    exact ⟨hsafe, trivial⟩

theorem envelopeByteLength_of_encode {type : EnvelopeType} {payload : JsValue N} {bytes : Bytes}
    (h : encodeEnvelope format type payload = .ok bytes) :
    envelopeByteLength format type payload = .ok bytes.length := by
  unfold encodeEnvelope at h
  simp only [bind_ok, throwIf_ok, exists_unit, pure_ok] at h
  obtain ⟨⟨typeByte, payloadBytes⟩, hserialized, -, rfl⟩ := h
  unfold envelopeByteLength
  rw [hserialized, ok_bind]
  change Except.ok (2 + payloadBytes.length) = _
  rw [List.length_cons, List.length_cons, Nat.add_comm]

/-- The text of an object starts with a brace, and is read as it was written. -/
theorem decodeText_stringify {payload : JsValue N} (hobject : isJsonObject payload = true) :
    decodeText (encodeUtf8 (stringify format payload)) = some (stringify format payload) := by
  unfold isJsonObject at hobject
  obtain ⟨fields, hfields⟩ := Option.isSome_iff_exists.mp hobject
  obtain ⟨kind, rfl⟩ := objectFields_some hfields
  have hmark : (encodeUtf8 (stringify format (.object kind fields))).take 3 ≠
      [0xef, 0xbb, 0xbf] := by
    rw [stringify]
    intro h
    exact absurd (List.cons.inj h).1 (by decide)
  unfold decodeText
  rw [if_neg hmark]
  exact decodeUtf8_encodeUtf8 _

theorem decodeEnvelope_encodeEnvelope (hlaw : format.Lawful) {type : EnvelopeType}
    {payload : JsValue N} (hordered : payload.Ordered) {bytes : Bytes}
    (h : encodeEnvelope format type payload = .ok bytes) :
    ∃ normalized, normalizedPayload format type payload = some normalized ∧
      decodeEnvelope format bytes = .envelope type normalized bytes := by
  obtain ⟨hobject, normalized, hnormalized, hsafe, -, rfl⟩ := encodeEnvelope_ok_iff.mp h
  have hobject' := normalizedPayload_object hnormalized hobject
  have hread := parseJson_stringify hlaw
    ⟨normalizedPayload_ordered hnormalized hordered, hsafe.1, hsafe.2⟩
  refine ⟨normalized, hnormalized, ?_⟩
  unfold decodeEnvelope
  simp only
  rw [if_pos trivial, typesByByte_byte]
  simp only
  rw [decodeText_stringify hobject', Option.bind_some, hread]
  simp only
  rw [if_pos hobject', normalizedPayload_idempotent hnormalized]

theorem decodeEnvelope_envelope {type : EnvelopeType} {payload : JsValue N} {bytes bytes' : Bytes}
    (h : decodeEnvelope format bytes = .envelope type payload bytes') :
    bytes' = bytes ∧ isJsonObject payload = true ∧ IsRead payload ∧
      normalizedPayload format type payload = some payload := by
  have hlegacy : decodeEnvelope.legacy bytes ≠ DecodedMail.envelope type payload bytes' := by
    unfold decodeEnvelope.legacy
    split
    · exact fun h => by cases h
    · exact fun h => by cases h
  unfold decodeEnvelope at h
  split at h
  · split at h
    · split at h
      · cases h
      · split at h
        · cases h
        · rename_i value hvalue
          split at h
          · rename_i hobject
            split at h
            · rename_i normalized hnormalized
              cases h
              obtain ⟨s, -, hparse⟩ := Option.bind_eq_some_iff.mp hvalue
              obtain ⟨hordered, hdata⟩ := parseJson_isRead hparse
              exact ⟨rfl, normalizedPayload_object hnormalized hobject,
                ⟨normalizedPayload_ordered hnormalized hordered,
                  normalizedPayload_data hnormalized hdata⟩,
                normalizedPayload_idempotent hnormalized⟩
            · cases h
          · cases h
    · exact absurd h hlegacy
  · exact absurd h hlegacy

theorem envelope_roundTrip (hlaw : format.Lawful) :
    (∀ (type : EnvelopeType) (payload : {v : JsValue N // v.Ordered}) (bytes : Bytes),
      encodeEnvelope format type payload.1 = .ok bytes →
      (∃ normalized, normalizedPayload format type payload.1 = some normalized ∧
        decodeEnvelope format bytes = .envelope type normalized bytes) ∧
      envelopeByteLength format type payload.1 = .ok bytes.length) ∧
    (∀ (type : EnvelopeType) (payload : JsValue N) (bytes bytes' : Bytes),
      decodeEnvelope format bytes = .envelope type payload bytes' →
      ((∃ again, encodeEnvelope format type payload = .ok again) ↔ payload.every isFinite = true ∧
        (type = .composite → envelopeSize format payload ≤ maxCompositeEnvelopeBytes)) ∧
      ∀ again, encodeEnvelope format type payload = .ok again →
        decodeEnvelope format again = .envelope type payload again) ∧
    ∀ (v : JsValue N) (c : CompositeWirePayload N), parseCompositeWirePayload format v = some c →
      parseCompositeWirePayload format c.toValue = some c := by
  refine ⟨fun type payload bytes h => ⟨decodeEnvelope_encodeEnvelope hlaw payload.2 h,
    envelopeByteLength_of_encode h⟩, fun type payload bytes bytes' h => ?_,
    fun v c h => parseCompositeWirePayload_toValue h⟩
  obtain ⟨-, hobject, hread, hnormalized⟩ := decodeEnvelope_envelope h
  constructor
  · constructor
    · rintro ⟨again, hagain⟩
      obtain ⟨-, normalized, hnormalized', hsafe, hlimit, -⟩ := encodeEnvelope_ok_iff.mp hagain
      cases hnormalized.symm.trans hnormalized'
      rw [not_and, not_lt] at hlimit
      exact ⟨hsafe.2, hlimit⟩
    · rintro ⟨hfinite, hlimit⟩
      rw [← not_lt, ← not_and] at hlimit
      exact ⟨_, encodeEnvelope_ok_iff.mpr
        ⟨hobject, payload, hnormalized, ⟨hread.2, hfinite⟩, hlimit, rfl⟩⟩
  · intro again hagain
    obtain ⟨normalized, hnormalized', hdecode⟩ := decodeEnvelope_encodeEnvelope hlaw hread.1 hagain
    cases hnormalized.symm.trans hnormalized'
    exact hdecode

/-! ## Numbers of one digit -/

/-- Numbers of one digit; a longer text stands for no finite number. -/
def digitFormat : NumberFormat (Fin 10) where
  toText := fun n => [n.val.digitChar]
  ofText
    | [c] => if c.isDigit then some (Fin.ofNat 10 (c.toNat - 48)) else none
    | _ => none

theorem digitFormat_lawful : digitFormat.Lawful where
  scanned := by decide
  ofText_toText := by decide

/-- An offer with one number. -/
def digitPayload : {v : JsValue (Fin 10) // v.Ordered} :=
  ⟨.object .plain [(text "n", .number 7)], List.pairwise_singleton _ _, trivial, trivial⟩

theorem envelope_roundTrip_digit : ∃ bytes,
    encodeEnvelope digitFormat .offer digitPayload.1 = .ok bytes ∧
    decodeEnvelope digitFormat bytes = .envelope .offer digitPayload.1 bytes ∧
    envelopeByteLength digitFormat .offer digitPayload.1 = .ok bytes.length := by
  have hencode : encodeEnvelope digitFormat .offer digitPayload.1 = .ok _ :=
    encodeEnvelope_ok_iff.mpr ⟨rfl, digitPayload.1, rfl, ⟨rfl, rfl⟩, fun h => (by cases h.1), rfl⟩
  obtain ⟨⟨normalized, hnormalized, hdecode⟩, hlength⟩ :=
    (envelope_roundTrip digitFormat_lawful).1 .offer digitPayload _ hencode
  cases hnormalized
  exact ⟨_, hencode, hdecode, hlength⟩

/-- The bytes of an offer whose number is too large. -/
def overflowBytes : Bytes :=
  envelopeVersion :: EnvelopeType.offer.byte :: encodeUtf8 "\x7b\"n\":1e999\x7d".toList

/-- It is decoded, and cannot be encoded again; text of the time before envelopes has no version. -/
theorem overflow_not_encoded :
    (decodeEnvelope digitFormat overflowBytes = .envelope .offer
      (.object .plain [(text "n", .nonFinite (.infinity false))]) overflowBytes ∧
    encodeEnvelope digitFormat .offer
      (.object .plain [(text "n", .nonFinite (.infinity false))]) =
        .error (text "payload.n contains a non-finite number.")) ∧
    decodeEnvelope digitFormat (encodeUtf8 "hi".toList) =
      .legacyText (text "hi") (encodeUtf8 "hi".toList) := by
  have hchars : "\x7b\"n\":1e999\x7d".toList =
      ['{', '"', 'n', '"', ':', '1', 'e', '9', '9', '9', '}'] := by decide
  have hkey : readUnits ['n', '"', ':', '1', 'e', '9', '9', '9', '}'] =
      some (text "n", [':', '1', 'e', '9', '9', '9', '}']) := by decide +kernel
  have hnumber : scanNumber ['1', 'e', '9', '9', '9', '}'] =
      some (['1', 'e', '9', '9', '9'], ['}']) := by decide +kernel
  have hparse : parseJson digitFormat "\x7b\"n\":1e999\x7d".toList =
      some (.object .plain [(text "n", .nonFinite (.infinity false))]) := by
    rw [hchars]
    simp [parseJson, readValue, readFields, skipWhitespace, isWhitespace, hkey, hnumber, numberOf,
      digitFormat, setField, insertField]
  have hdecode : decodeText (encodeUtf8 "\x7b\"n\":1e999\x7d".toList) =
      some "\x7b\"n\":1e999\x7d".toList := by
    unfold decodeText
    rw [if_neg (by decide)]
    exact decodeUtf8_encodeUtf8 _
  have hlegacy : decodeText (encodeUtf8 "hi".toList) = some "hi".toList := by
    unfold decodeText
    rw [if_neg (by decide)]
    exact decodeUtf8_encodeUtf8 _
  refine ⟨⟨?_, by decide +kernel⟩, ?_⟩
  · unfold decodeEnvelope overflowBytes
    simp only
    rw [if_pos trivial, typesByByte_byte]
    simp only
    rw [hdecode, Option.bind_some, hparse]
    rfl
  · change decodeEnvelope.legacy (encodeUtf8 "hi".toList) = _
    unfold decodeEnvelope.legacy
    rw [hlegacy]
    rfl

end App20.Mail
