import App20.Domain.Json

/-!
# Conversations of the mailbox

The messages of a conversation are taken oldest first. A copy that this device sent and a copy of the
same document seen on chain become one, and a reply is put after what it answers.

* `collapseSelfMailCopies`, `assembleConversation`: the functions.
* `collapse_invariant`: what the slots hold after any part of the mailbox.
* `emit_kept`: a message is passed over only while what it answers is still to come.
* `assembleConversation_faithful_iff`: when no more than two copies become one.
-/

namespace App20.Mail.Thread

open App20.Domain

/-! ## Messages -/

inductive Direction where
  | incoming | outgoing
  deriving DecidableEq

structure Envelope where
  type : Text
  payload : Option Json

/-- `ThreadAssemblyMessage` -/
structure Message where
  id : Text
  documentId : Option Text
  localConversationId : Option Text
  direction : Option Direction
  index : Option Json
  record : Option Json
  transactionHash : Option Json
  blockNumber : Option Json
  blockTimestamp : Option Json
  eventIndex : Option Json
  /-- `threadProvenance === "device_sent_and_on_chain"` -/
  deviceSentAndOnChain : Bool
  envelope : Envelope

/-- The fields that the assembly reads. -/
structure MailConversationFields where
  documentId : Option Text
  conversationId : Option Text
  inReplyTo : Option Text

def parseConversationId : Option Json → Option Text
  | some (.string value) => if isDigest value then some (toLowerCase value) else none
  | _ => none

def conversationFieldsFromPayload (payload : Option Json) : MailConversationFields where
  documentId := parseConversationId (payload.bind (·.get? "documentId"))
  conversationId := parseConversationId (payload.bind (·.get? "conversationId"))
  inReplyTo := parseConversationId (payload.bind (·.get? "inReplyTo"))

def Message.fields (message : Message) : MailConversationFields :=
  conversationFieldsFromPayload
    (if message.envelope.type = "unsupported".toList then none else message.envelope.payload)

def conversationKeyForMessage (message : Message) : Text :=
  (message.fields.conversationId.or (message.localConversationId.or
    (message.fields.documentId.or message.documentId))).getD message.id

def stableDocumentId (message : Message) : Option Text :=
  message.fields.documentId.or (parseConversationId (message.documentId.map .string))

/-! ## Copies of a document -/

def hasSentCopy (message : Message) : Bool :=
  decide (message.direction = some .outgoing) || message.deviceSentAndOnChain

/-- `a ?? b` -/
def coalesce (a b : Option Json) : Option Json :=
  match a with
  | none | some .null => b
  | a => a

def mergeCopies (existing message : Message) : Message :=
  let sent := if hasSentCopy existing then existing else message
  let chain := if hasSentCopy existing then message else existing
  { id := sent.id
    documentId := sent.documentId.or chain.documentId
    localConversationId := sent.localConversationId.or chain.localConversationId
    direction := some .outgoing
    index := coalesce chain.index sent.index
    record := coalesce chain.record sent.record
    transactionHash := coalesce chain.transactionHash sent.transactionHash
    blockNumber := coalesce chain.blockNumber sent.blockNumber
    blockTimestamp := coalesce chain.blockTimestamp sent.blockTimestamp
    eventIndex := coalesce chain.eventIndex sent.eventIndex
    deviceSentAndOnChain := true
    envelope := sent.envelope }

/-- A message of the collapsed list. What it was made of is kept for the proofs: no function
reads it. -/
structure Slot where
  message : Message
  sources : List Message

structure Collapse where
  collapsed : List Slot
  positions : Text → Option Nat

def Collapse.initial : Collapse := ⟨[], fun _ => none⟩

def Collapse.push (c : Collapse) (message : Message) : Collapse :=
  { c with collapsed := c.collapsed ++ [⟨message, [message]⟩] }

/-- One round of the loop of `collapseSelfMailCopies`. -/
def Collapse.add (c : Collapse) (message : Message) : Collapse :=
  match stableDocumentId message with
  | none => c.push message
  | some documentId =>
    match c.positions documentId with
    | none =>
      { c.push message with
        positions := Function.update c.positions documentId (some c.collapsed.length) }
    | some position =>
      match c.collapsed[position]? with
      | none => c
      | some existing =>
        if hasSentCopy existing.message = hasSentCopy message then c.push message
        else { c with
          collapsed := c.collapsed.set position
            ⟨mergeCopies existing.message message, existing.sources ++ [message]⟩ }

def collapseSelfMailCopies (messages : List Message) : List Slot :=
  (messages.foldl Collapse.add .initial).collapsed

/-! ## The order of a conversation -/

/-- Nothing returned that the message answers is still to come. -/
def ready (documentIds emittedDocumentIds : List Text) (message : Message) : Bool :=
  match message.fields.inReplyTo with
  | none => true
  | some id => !documentIds.contains id || emittedDocumentIds.contains id

/-- The loop of `assembleConversation`. In a cycle of replies the oldest message comes first. -/
def emit (documentIds emittedDocumentIds : List Text) (remaining : List Message) : List Message :=
  match remaining with
  | [] => []
  | first :: rest =>
    let index := ((first :: rest).findIdx? (ready documentIds emittedDocumentIds)).getD 0
    let message := (first :: rest)[index]?.getD first
    message :: emit documentIds (emittedDocumentIds ++ (stableDocumentId message).toList)
      ((first :: rest).eraseIdx index)
termination_by remaining.length
decreasing_by
  cases h : (first :: rest).findIdx? (ready documentIds emittedDocumentIds) with
  | none => simp
  | some i =>
    have hi := (List.findIdx?_eq_some_iff_getElem.mp h).1
    simp only [Option.getD_some, List.length_eraseIdx_of_lt hi]
    omega

/-- The messages of the selected conversation, the oldest first. -/
def selectedConversation (messagesNewestFirst : List Message) (selectedMessageId : Option Text) :
    List Message :=
  match selectedMessageId with
  | none | some [] => []
  | some id =>
    match messagesNewestFirst.find? fun message => decide (message.id = id) with
    | none => []
    | some selected =>
      (messagesNewestFirst.filter fun message =>
        decide (conversationKeyForMessage message = conversationKeyForMessage selected)).reverse

def assembleConversation (messagesNewestFirst : List Message) (selectedMessageId : Option Text) :
    List Message :=
  let chronologicalFallback := (collapseSelfMailCopies
    (selectedConversation messagesNewestFirst selectedMessageId)).map Slot.message
  emit (chronologicalFallback.filterMap stableDocumentId) [] chronologicalFallback

/-! ## What becomes one -/

theorem hasSentCopy_mergeCopies (a b : Message) : hasSentCopy (mergeCopies a b) = true := by
  simp [hasSentCopy, mergeCopies]

theorem stableDocumentId_mergeCopies {a b : Message} {d : Text}
    (ha : stableDocumentId a = some d) (hb : stableDocumentId b = some d) :
    stableDocumentId (mergeCopies a b) = some d := by
  have hsent : ∀ sent chain m : Message, stableDocumentId sent = some d →
      m.envelope = sent.envelope → m.documentId = sent.documentId.or chain.documentId →
      stableDocumentId m = some d := by
    intro sent chain m h henvelope hid
    unfold stableDocumentId Message.fields at h ⊢
    rw [henvelope, hid]
    cases hown : sent.documentId with
    | none =>
      rw [hown, Option.map_none, show parseConversationId none = none from rfl, Option.or_none] at h
      rw [h, Option.some_or]
    | some id => rw [Option.some_or, ← hown, h]
  by_cases h : hasSentCopy a = true
  · exact hsent a b _ ha (by simp [mergeCopies, h]) (by simp [mergeCopies, h])
  · exact hsent b a _ hb (by simp [mergeCopies, h]) (by simp [mergeCopies, h])

theorem mergeCopies_comm {a b : Message} (ha : hasSentCopy a = true) (hb : hasSentCopy b = false) :
    mergeCopies b a = mergeCopies a b := by
  simp [mergeCopies, ha, hb]

/-- The copies of a document, the oldest first. -/
def copies (d : Text) (messages : List Message) : List Message :=
  messages.filter fun message => decide (stableDocumentId message = some d)

/-- What becomes one of the copies of a document: the first, the first of the other kind, and from
then on each copy from chain. -/
def folded : List Message → List Message
  | [] => []
  | first :: later => first ::
    match later.dropWhile fun message => hasSentCopy message == hasSentCopy first with
    | [] => []
    | other :: rest => other :: rest.filter (!hasSentCopy ·)

theorem dropWhile_other {first other : Message} {later rest : List Message}
    (h : later.dropWhile (fun message => hasSentCopy message == hasSentCopy first) =
      other :: rest) : hasSentCopy other = !hasSentCopy first := by
  have hhead := List.head?_dropWhile_not (fun m => hasSentCopy m == hasSentCopy first) later
  rw [h] at hhead
  simpa [Bool.eq_not] using hhead

theorem folded_append {seen : List Message} (hseen : seen ≠ []) (message : Message) :
    folded (seen ++ [message]) =
      if (folded seen).any hasSentCopy = hasSentCopy message then folded seen
      else folded seen ++ [message] := by
  obtain ⟨first, later, rfl⟩ := List.exists_cons_of_ne_nil hseen
  rw [List.cons_append, folded, folded, List.dropWhile_append]
  cases h : later.dropWhile fun m => hasSentCopy m == hasSentCopy first with
  | nil =>
    by_cases hsame : hasSentCopy message = hasSentCopy first
    · simp [hsame]
    · simp [hsame, Ne.symm hsame]
  | cons other rest =>
    have hboth : (first :: other :: rest.filter (!hasSentCopy ·)).any hasSentCopy = true := by
      rw [List.any_cons, List.any_cons, dropWhile_other h]
      cases hasSentCopy first <;> simp
    rw [if_neg (by simp)]
    simp only [List.cons_append, hboth, List.filter_append, List.filter_cons, List.filter_nil]
    cases hasSentCopy message <;> simp

/-- What the loop has made of the part of the mailbox that it has seen. -/
structure Invariant (seen : List Message) (c : Collapse) : Prop where
  sources : (c.collapsed.flatMap Slot.sources).Perm seen
  built : ∀ s ∈ c.collapsed, ∃ first later, s.sources = first :: later ∧
    s.message = later.foldl mergeCopies first
  placed : ∀ d p, c.positions d = some p → ∃ s, c.collapsed[p]? = some s ∧
    s.sources = folded (copies d seen) ∧ stableDocumentId s.message = some d ∧
    hasSentCopy s.message = s.sources.any hasSentCopy
  free : ∀ d, c.positions d = none → copies d seen = []
  single : ∀ p s, c.collapsed[p]? = some s → (∀ d, c.positions d ≠ some p) →
    s.sources = [s.message]

theorem copies_append (d : Text) (seen : List Message) (message : Message) :
    copies d (seen ++ [message]) =
      copies d seen ++ if stableDocumentId message = some d then [message] else [] := by
  simp [copies, List.filter_append, List.filter_cons]

theorem Invariant.initial : Invariant [] .initial where
  sources := List.Perm.nil
  built := by simp [Collapse.initial]
  placed := by simp [Collapse.initial]
  free := by simp [copies]
  single := by simp [Collapse.initial]

namespace Invariant

variable {seen : List Message} {c : Collapse} {message : Message} {existing : Slot} {d d' : Text} {p : Nat}

theorem lt (h : Invariant seen c) (hp : c.positions d = some p) : p < c.collapsed.length := by
  obtain ⟨s, hs, -⟩ := h.placed d p hp
  exact (List.getElem?_eq_some_iff.mp hs).1

/-- Two documents have two places. -/
theorem inj (h : Invariant seen c) (hp : c.positions d = some p) (hp' : c.positions d' = some p) :
    d = d' := by
  obtain ⟨s, hs, -, hd, -⟩ := h.placed d p hp
  obtain ⟨s', hs', -, hd', -⟩ := h.placed d' p hp'
  cases hs.symm.trans hs'
  exact Option.some.inj (hd.symm.trans hd')

theorem ne_nil (h : Invariant seen c) (hp : c.positions d = some p) : copies d seen ≠ [] := by
  obtain ⟨s, hs, hsources, -⟩ := h.placed d p hp
  obtain ⟨first, later, hbuilt, -⟩ := h.built s (List.mem_of_getElem? hs)
  intro hnil
  rw [hsources, hnil] at hbuilt
  cases hbuilt

/-- A message that stays apart: it takes a place only for a document that has none. -/
theorem push {positions : Text → Option Nat} (h : Invariant seen c)
    (hpositions : ∀ d p, positions d = some p ↔ c.positions d = some p ∨
      (c.positions d = none ∧ stableDocumentId message = some d ∧ p = c.collapsed.length))
    (hsame : ∀ d p s, stableDocumentId message = some d → c.positions d = some p →
      c.collapsed[p]? = some s → hasSentCopy s.message = hasSentCopy message) :
    Invariant (seen ++ [message]) { c.push message with positions := positions } where
  sources := by
    simp only [Collapse.push, List.flatMap_append, List.flatMap_singleton]
    exact h.sources.append_right _
  built s hs := by
    rcases List.mem_append.mp hs with hold | hnew
    · exact h.built s hold
    · obtain rfl := List.mem_singleton.mp hnew
      exact ⟨message, [], rfl, rfl⟩
  placed d p hp := by
    rcases (hpositions d p).mp hp with hold | ⟨hnone, hd, rfl⟩
    · obtain ⟨s, hs, hsources, hdoc, hflag⟩ := h.placed d p hold
      refine ⟨s, List.getElem?_append_left (h.lt hold) ▸ hs, ?_, hdoc, hflag⟩
      rw [copies_append]
      split
      · rename_i hd
        rw [folded_append (h.ne_nil hold), ← hsources, ← hflag, if_pos (hsame d p s hd hold hs)]
      · rw [List.append_nil, hsources]
    · refine ⟨⟨message, [message]⟩, List.getElem?_concat_length, ?_, hd, by simp⟩
      rw [copies_append, h.free d hnone, if_pos hd]
      rfl
  free d (hnone : positions d = none) := by
    have hold : c.positions d = none := by
      refine Option.eq_none_iff_forall_ne_some.mpr fun p hp => ?_
      rw [(hpositions d p).mpr (Or.inl hp)] at hnone
      cases hnone
    have hother : stableDocumentId message ≠ some d := by
      intro hd
      rw [(hpositions d _).mpr (Or.inr ⟨hold, hd, rfl⟩)] at hnone
      cases hnone
    rw [copies_append, h.free d hold, if_neg hother, List.append_nil]
  single p s hs hno := by
    simp only [Collapse.push, List.getElem?_append] at hs
    split at hs
    · exact h.single p s hs fun d hd => hno d ((hpositions d p).mpr (Or.inl hd))
    · obtain rfl := List.mem_singleton.mp (List.mem_of_getElem? hs)
      rfl

/-- A copy of the other kind than the one in its place. -/
theorem merge (h : Invariant seen c) (hd : stableDocumentId message = some d)
    (hp : c.positions d = some p) (hexisting : c.collapsed[p]? = some existing)
    (hother : hasSentCopy existing.message ≠ hasSentCopy message) :
    Invariant (seen ++ [message]) { c with
      collapsed := c.collapsed.set p
        ⟨mergeCopies existing.message message, existing.sources ++ [message]⟩ } := by
  obtain ⟨s, hs, hsources, hdoc, hflag⟩ := h.placed d p hp
  cases hs.symm.trans hexisting
  obtain ⟨hlt, hget⟩ := List.getElem?_eq_some_iff.mp hexisting
  constructor
  case sources =>
    obtain ⟨before, after, hsplit, -, hset⟩ := @List.exists_of_set _ p
      ⟨mergeCopies existing.message message, existing.sources ++ [message]⟩ c.collapsed hlt
    refine List.Perm.trans ?_ (h.sources.append_right [message])
    rw [hset, congrArg (List.flatMap Slot.sources) hsplit, hget]
    simp only [List.flatMap_append, List.flatMap_cons, List.append_assoc]
    exact ((List.perm_append_singleton message _).symm.append_left _).append_left _
  case built =>
    intro s hs
    rcases List.mem_or_eq_of_mem_set hs with hold | rfl
    · exact h.built s hold
    · obtain ⟨first, later, hbuilt, hmessage⟩ := h.built existing (List.mem_of_getElem? hexisting)
      exact ⟨first, later ++ [message], by simp [hbuilt], by simp [hmessage]⟩
  case placed =>
    intro d' p' hp'
    by_cases hplace : p = p'
    · subst hplace
      cases h.inj hp' hp
      refine ⟨_, List.getElem?_set_self hlt, ?_, stableDocumentId_mergeCopies hdoc hd, ?_⟩
      · rw [copies_append, if_pos hd, folded_append (h.ne_nil hp), ← hsources, ← hflag,
          if_neg hother]
      · rw [hasSentCopy_mergeCopies, List.any_append, ← hflag]
        revert hother
        cases hasSentCopy existing.message <;> simp
    · obtain ⟨s, hs, hsources', hdoc', hflag'⟩ := h.placed d' p' hp'
      have hne : stableDocumentId message ≠ some d' := by
        rintro hd'
        cases hd.symm.trans hd'
        exact hplace (Option.some.inj (hp.symm.trans hp'))
      refine ⟨s, (List.getElem?_set_ne hplace).trans hs, ?_, hdoc', hflag'⟩
      rw [copies_append, if_neg hne, List.append_nil, hsources']
  case free =>
    intro d' hnone
    have hne : stableDocumentId message ≠ some d' := by
      rintro hd'
      cases hd.symm.trans hd'
      rw [hp] at hnone
      cases hnone
    rw [copies_append, h.free d' hnone, if_neg hne, List.append_nil]
  case single =>
    intro p' s hs hno
    have hplace : p ≠ p' := fun heq => hno d (heq ▸ hp)
    exact h.single p' s ((List.getElem?_set_ne hplace).symm.trans hs) hno

theorem add (h : Invariant seen c) (message : Message) :
    Invariant (seen ++ [message]) (c.add message) := by
  unfold Collapse.add
  split
  · rename_i hnone
    exact h.push (by simp [hnone]) (by simp [hnone])
  · rename_i d hd
    split
    · rename_i hfree
      refine h.push (fun d' p => ?_) fun d' p s hd' hp => ?_
      · by_cases heq : d' = d
        · subst heq
          simp [hfree, hd, eq_comm]
        · rw [Function.update_of_ne heq]
          simp [hd, Ne.symm heq]
      · cases hd.symm.trans hd'
        rw [hfree] at hp
        cases hp
    · rename_i p hp
      obtain ⟨existing, hexisting, -⟩ := h.placed d p hp
      simp only [hexisting]
      split
      · rename_i hsame
        refine h.push (fun d' p' => ⟨Or.inl, ?_⟩) fun d' p' s hd' hp' hs => ?_
        · rintro (hold | ⟨hnone, hd', -⟩)
          · exact hold
          · cases hd.symm.trans hd'
            rw [hp] at hnone
            cases hnone
        · cases hd.symm.trans hd'
          cases hp.symm.trans hp'
          cases hexisting.symm.trans hs
          exact hsame
      · rename_i hother
        exact h.merge hd hp hexisting hother

end Invariant

theorem collapse_invariant (messages : List Message) :
    Invariant messages (messages.foldl Collapse.add .initial) := by
  suffices h : ∀ (later seen : List Message) c, Invariant seen c →
      Invariant (seen ++ later) (later.foldl Collapse.add c) from
    h messages [] _ .initial
  intro later
  induction later with
  | nil => intro seen c h; rwa [List.append_nil]
  | cons m later ih =>
    intro seen c h
    rw [List.foldl_cons, List.append_cons]
    exact ih _ _ (h.add m)

/-! ## What comes after what -/

/-- A message answers the document of another. -/
def Answers (reply target : Message) : Prop :=
  ∃ d, reply.fields.inReplyTo = some d ∧ stableDocumentId target = some d

/-- The replies among the messages form no cycle. -/
def Acyclic (messages : List Message) : Prop :=
  ∀ m, ¬ Relation.TransGen (fun a b => a ∈ messages ∧ b ∈ messages ∧ Answers a b) m m

/-- What the message answers is among the messages, and none of that document has come. -/
def Waits (messages emitted : List Message) (message : Message) : Prop :=
  (∃ target ∈ messages, Answers message target) ∧ ∀ target ∈ emitted, ¬ Answers message target

/-- The messages left are returned in their order, but for those that wait. -/
def Kept (messages : List Message) : List Message → List Message → List Message → Prop
  | _, remaining, [] => remaining = []
  | emitted, remaining, next :: returned => ∃ before after, remaining = before ++ next :: after ∧
      (∀ m ∈ before, Waits messages emitted m) ∧
      Kept messages (emitted ++ [next]) (before ++ after) returned

theorem ready_eq_false_iff {messages emitted : List Message} {m : Message} :
    ready (messages.filterMap stableDocumentId) (emitted.filterMap stableDocumentId) m = false ↔
      Waits messages emitted m := by
  unfold ready Waits Answers
  cases m.fields.inReplyTo with
  | none => simp
  | some d => simp

/-- One round: the oldest message that is ready is next, or the oldest when none is. -/
theorem emit_next {documentIds emitted : List Text} {remaining : List Message}
    (hne : remaining ≠ []) :
    ∃ before next after, remaining = before ++ next :: after ∧
      (∀ m ∈ before, ready documentIds emitted m = false) ∧
      (ready documentIds emitted next = true ∨
        ∀ m ∈ remaining, ready documentIds emitted m = false) ∧
      emit documentIds emitted remaining = next ::
        emit documentIds (emitted ++ (stableDocumentId next).toList) (before ++ after) := by
  obtain ⟨first, rest, rfl⟩ := List.exists_cons_of_ne_nil hne
  rw [emit]
  cases h : (first :: rest).findIdx? (ready documentIds emitted) with
  | none =>
    exact ⟨[], first, rest, rfl, by simp, Or.inr (List.findIdx?_eq_none_iff.mp h), by simp⟩
  | some i =>
    obtain ⟨hi, hready, hbefore⟩ := List.findIdx?_eq_some_iff_getElem.mp h
    refine ⟨(first :: rest).take i, (first :: rest)[i], (first :: rest).drop (i + 1),
      by rw [List.getElem_cons_drop, List.take_append_drop], fun m hm => ?_, Or.inl hready, ?_⟩
    · obtain ⟨j, hj, rfl⟩ := List.mem_take_iff_getElem.mp hm
      simpa using hbefore j (by omega)
    · simp only [Option.getD_some, List.getElem?_eq_getElem hi, List.eraseIdx_eq_take_drop_succ]

variable {messages emitted remaining : List Message}

theorem Kept.perm {returned : List Message} (h : Kept messages emitted remaining returned) :
    returned.Perm remaining := by
  induction returned generalizing emitted remaining with
  | nil => exact h ▸ List.Perm.nil
  | cons next returned ih =>
    obtain ⟨before, after, rfl, -, hrest⟩ := h
    exact ((ih hrest).cons next).trans List.perm_middle.symm

/-- Some element of a list has none below it. -/
theorem exists_minimal {r : Message → Message → Prop} (htrans : ∀ x y z, r x y → r y z → r x z)
    (hirrefl : ∀ x, ¬ r x x) (hne : remaining ≠ []) :
    ∃ m ∈ remaining, ∀ x ∈ remaining, ¬ r x m := by
  induction remaining with
  | nil => exact absurd rfl hne
  | cons first rest ih =>
    by_cases hrest : rest = []
    · exact ⟨first, List.mem_cons_self, by simp [hrest, hirrefl]⟩
    · obtain ⟨m, hm, hmin⟩ := ih hrest
      by_cases hbelow : r first m
      · refine ⟨first, List.mem_cons_self, fun x hx hr => ?_⟩
        rcases List.mem_cons.mp hx with rfl | hx
        · exact hirrefl x hr
        · exact hmin x hx (htrans x first m hr hbelow)
      · exact ⟨m, List.mem_cons_of_mem _ hm, List.forall_mem_cons.mpr ⟨hbelow, hmin⟩⟩

/-- Without a cycle, something is ready as long as something is left. -/
theorem exists_ready (hacyclic : Acyclic messages) (hne : remaining ≠ [])
    (hremaining : ∀ m ∈ remaining, m ∈ messages)
    (hmessages : ∀ m ∈ messages, m ∈ emitted ∨ m ∈ remaining) :
    ∃ m ∈ remaining, ¬ Waits messages emitted m := by
  by_contra hall
  push Not at hall
  obtain ⟨m, hm, hmin⟩ := exists_minimal
    (r := fun x y => Relation.TransGen (fun a b => a ∈ messages ∧ b ∈ messages ∧ Answers a b) y x)
    (fun _ _ _ hxy hyz => hyz.trans hxy) hacyclic hne
  obtain ⟨⟨target, htarget, hanswers⟩, hnone⟩ := hall m hm
  have hleft : target ∈ remaining :=
    (hmessages target htarget).resolve_left fun hmem => hnone target hmem hanswers
  exact hmin target hleft (.single ⟨hremaining _ hm, htarget, hanswers⟩)

/-- The whole loop: only what waits is passed over, and without a cycle nothing comes that waits. -/
theorem emit_kept (messages : List Message) (n : Nat) : ∀ emitted remaining : List Message,
    remaining.length = n → (∀ m ∈ remaining, m ∈ messages) →
    (∀ m ∈ messages, m ∈ emitted ∨ m ∈ remaining) →
    Kept messages emitted remaining (emit (messages.filterMap stableDocumentId)
      (emitted.filterMap stableDocumentId) remaining) ∧
    (Acyclic messages → ∀ pre m post, emit (messages.filterMap stableDocumentId)
      (emitted.filterMap stableDocumentId) remaining = pre ++ m :: post →
        ¬ Waits messages (emitted ++ pre) m) := by
  induction n with
  | zero =>
    intro emitted remaining hlength _ _
    obtain rfl := List.length_eq_zero_iff.mp hlength
    rw [emit]
    exact ⟨rfl, fun _ pre m post h => by simp at h⟩
  | succ n ih =>
    intro emitted remaining hlength hremaining hmessages
    have hne := List.ne_nil_of_length_eq_add_one hlength
    obtain ⟨before, next, after, hsplit, hbefore, hready, hemit⟩ := emit_next hne
    have hnext : emitted.filterMap stableDocumentId ++ (stableDocumentId next).toList =
        (emitted ++ [next]).filterMap stableDocumentId := by
      cases h : stableDocumentId next <;> simp [h]
    rw [hemit, hnext]
    subst hsplit
    obtain ⟨hkept, hafter⟩ := ih (emitted ++ [next]) (before ++ after)
      (by simp at hlength ⊢; omega)
      (fun m hm => hremaining m (by simp at hm ⊢; tauto))
      (fun m hm => by have := hmessages m hm; simp at this ⊢; tauto)
    refine ⟨⟨before, after, rfl, fun m hm => ready_eq_false_iff.mp (hbefore m hm), hkept⟩, ?_⟩
    intro hacyclic pre m post heq
    cases pre with
    | nil =>
      obtain ⟨rfl, -⟩ := List.cons.inj heq
      rw [List.append_nil, ← ready_eq_false_iff]
      rcases hready with hready | hnone
      · simp [hready]
      · obtain ⟨other, hother, hwaits⟩ := exists_ready hacyclic hne hremaining hmessages
        exact absurd (ready_eq_false_iff.mp (hnone other hother)) hwaits
    | cons x pre =>
      obtain ⟨rfl, hrest⟩ := List.cons.inj heq
      rw [List.append_cons]
      exact hafter hacyclic pre m post hrest

/-! ## The assembly -/

/-- What a device knows to have sent, and has not seen on chain. -/
def DeviceSent (message : Message) : Prop :=
  hasSentCopy message = true ∧ message.deviceSentAndOnChain = false

/-- A message as it came, or a copy that the device sent with one from chain of its document. -/
def Slot.Lawful (s : Slot) : Prop :=
  s.sources = [s.message] ∨ ∃ sent chain d, s.sources.Perm [sent, chain] ∧
    s.message = mergeCopies sent chain ∧ DeviceSent sent ∧ hasSentCopy chain = false ∧
    stableDocumentId sent = some d ∧ stableDocumentId chain = some d

/-- The messages of a conversation come out once each, and replies after what they answer. -/
structure Faithful (conversation : List Message) (slots : List Slot) (returned : List Message) :
    Prop where
  once : (slots.flatMap Slot.sources).Perm conversation
  each : returned.Perm (slots.map Slot.message)
  merged : ∀ s ∈ slots, s.Lawful
  replies : Acyclic returned → ∀ pre m post, returned = pre ++ m :: post →
    (∃ target ∈ returned, Answers m target) → ∃ target ∈ pre, Answers m target
  order : Kept (slots.map Slot.message) [] (slots.map Slot.message) returned

/-- The copies of a document, the oldest first, that become one in pairs at most: after the first copy
of the other kind than the oldest none comes from chain, and neither of the two is both already. -/
def Pairs : List Message → Prop
  | [] => True
  | first :: later =>
    match later.dropWhile fun message => hasSentCopy message == hasSentCopy first with
    | [] => True
    | other :: rest => first.deviceSentAndOnChain = false ∧ other.deviceSentAndOnChain = false ∧
        ∀ message ∈ rest, hasSentCopy message = true

theorem lawful_folded_iff {s : Slot} {group : List Message}
    (hbuilt : ∃ first later, s.sources = first :: later ∧
      s.message = later.foldl mergeCopies first)
    (hsources : s.sources = folded group) (hdoc : ∃ d, ∀ m ∈ group, stableDocumentId m = some d) :
    s.Lawful ↔ Pairs group := by
  cases group with
  | nil =>
    obtain ⟨first, later, h, -⟩ := hbuilt
    rw [h] at hsources
    cases hsources
  | cons first later =>
    obtain ⟨d, hd⟩ := hdoc
    obtain ⟨oldest, more, hlist, hmessage⟩ := hbuilt
    rw [folded] at hsources
    rw [Pairs]
    cases h : later.dropWhile fun m => hasSentCopy m == hasSentCopy first with
    | nil =>
      rw [h] at hsources
      cases hlist.symm.trans hsources
      exact iff_of_true (Or.inl (by rw [hsources, hmessage]; rfl)) trivial
    | cons other rest =>
      rw [h] at hsources
      obtain ⟨rfl, rfl⟩ := List.cons.inj (hlist.symm.trans hsources)
      have hother := dropWhile_other h
      have hmem : other ∈ later := (List.dropWhile_sublist _).subset (h ▸ List.mem_cons_self)
      constructor
      · rintro (hone | ⟨sent, chain, -, hperm, -, ⟨-, hsent⟩, hchain, -⟩)
        · rw [hsources] at hone
          cases hone
        · have hboth : ∀ m ∈ s.sources, m.deviceSentAndOnChain = false := by
            intro m hm
            rcases List.mem_pair.mp (hperm.subset hm) with rfl | rfl
            · exact hsent
            · exact (Bool.or_eq_false_iff.mp hchain).2
          have hlength := hperm.length_eq
          rw [hsources] at hboth hlength
          have hnone : rest.filter (!hasSentCopy ·) = [] :=
            List.length_eq_zero_iff.mp (by simpa using hlength)
          refine ⟨hboth _ (by simp), hboth _ (by simp), fun m hm => ?_⟩
          simpa using List.filter_eq_nil_iff.mp hnone m hm
      · rintro ⟨hfirst, hsecond, hrest⟩
        have hnone : rest.filter (!hasSentCopy ·) = [] :=
          List.filter_eq_nil_iff.mpr fun m hm => by simp [hrest m hm]
        simp only [hnone] at hsources hmessage
        cases hflag : hasSentCopy oldest with
        | true =>
          rw [hflag] at hother
          exact Or.inr ⟨oldest, other, d, .of_eq hsources, hmessage, ⟨hflag, hfirst⟩, hother,
            hd _ List.mem_cons_self, hd _ (List.mem_cons_of_mem _ hmem)⟩
        | false =>
          rw [hflag] at hother
          exact Or.inr ⟨other, oldest, d, hsources ▸ .swap .., hmessage.trans
            (mergeCopies_comm hother hflag), ⟨hother, hsecond⟩, hflag,
            hd _ (List.mem_cons_of_mem _ hmem), hd _ List.mem_cons_self⟩

/-- What comes out, in what order, and when no more than two copies become one. -/
theorem assembleConversation_faithful_iff (messagesNewestFirst : List Message)
    (selectedMessageId : Option Text) :
    let conversation := selectedConversation messagesNewestFirst selectedMessageId
    Faithful conversation (collapseSelfMailCopies conversation)
        (assembleConversation messagesNewestFirst selectedMessageId) ↔
      ∀ d, Pairs (copies d conversation) := by
  intro conversation
  have hinv := collapse_invariant conversation
  set c := conversation.foldl Collapse.add .initial with hc
  have hslot : ∀ d p s, c.positions d = some p → c.collapsed[p]? = some s →
      (s.Lawful ↔ Pairs (copies d conversation)) := by
    intro d p s hp hs
    obtain ⟨s', hs', hsources, -⟩ := hinv.placed d p hp
    cases hs.symm.trans hs'
    exact lawful_folded_iff (hinv.built s (List.mem_of_getElem? hs)) hsources
      ⟨d, fun m hm => by simpa [copies] using (List.mem_filter.mp hm).2⟩
  constructor
  · intro h d
    cases hp : c.positions d with
    | none =>
      rw [hinv.free d hp]
      trivial
    | some p =>
      obtain ⟨s, hs, -⟩ := hinv.placed d p hp
      exact (hslot d p s hp hs).mp (h.merged s (List.mem_of_getElem? hs))
  · intro h
    obtain ⟨hkept, hafter⟩ := emit_kept (c.collapsed.map Slot.message) _ []
      (c.collapsed.map Slot.message) rfl (fun _ hm => hm) (fun _ hm => Or.inr hm)
    have heach : (assembleConversation messagesNewestFirst selectedMessageId).Perm
        (c.collapsed.map Slot.message) := hkept.perm
    refine ⟨hinv.sources, heach, fun s hs => ?_, fun hacyclic pre m post heq htarget => ?_, hkept⟩
    · obtain ⟨p, hp⟩ := List.mem_iff_getElem?.mp hs
      by_cases hplace : ∃ d, c.positions d = some p
      · obtain ⟨d, hd⟩ := hplace
        exact (hslot d p s hd hp).mpr (h d)
      · exact Or.inl (hinv.single p s hp fun d hd => hplace ⟨d, hd⟩)
    · by_contra hnone
      have hacyclic' : Acyclic (c.collapsed.map Slot.message) := by
        unfold Acyclic at hacyclic ⊢
        simpa only [heach.mem_iff] using hacyclic
      refine hafter hacyclic' pre m post heq ⟨?_, fun t ht hanswers => hnone ⟨t, ht, hanswers⟩⟩
      obtain ⟨target, htarget, hanswers⟩ := htarget
      exact ⟨target, heach.subset htarget, hanswers⟩

/-- A copy that the device sent, when `direction` is outgoing, or one from chain. -/
def copyOf (id : String) (direction : Direction) : Message where
  id := id.toList
  documentId := some ('0' :: 'x' :: List.replicate 64 '1')
  localConversationId := none
  direction := some direction
  index := none
  record := none
  transactionHash := none
  blockNumber := none
  blockTimestamp := none
  eventIndex := none
  deviceSentAndOnChain := false
  envelope := ⟨"chat".toList, none⟩

/-- Two copies from chain that claim the document of a message of this device, the newest first. -/
def claimedTwice : List Message :=
  [copyOf "second" .incoming, copyOf "first" .incoming, copyOf "sent" .outgoing]

/-- All three become one. -/
theorem claimedTwice_not_faithful :
    ¬ Faithful (selectedConversation claimedTwice (some "sent".toList))
      (collapseSelfMailCopies (selectedConversation claimedTwice (some "sent".toList)))
      (assembleConversation claimedTwice (some "sent".toList)) := by
  intro h
  have hsources : (collapseSelfMailCopies (selectedConversation claimedTwice
      (some "sent".toList))).map (fun s => s.sources.length) = [3] := by decide
  obtain ⟨s, hs, hlength⟩ := List.mem_map.mp (hsources ▸ List.mem_singleton_self 3)
  rcases h.merged s hs with hone | ⟨_, _, _, hperm, -⟩
  · rw [hone] at hlength
    cases hlength
  · rw [hperm.length_eq] at hlength
    cases hlength

end App20.Mail.Thread
