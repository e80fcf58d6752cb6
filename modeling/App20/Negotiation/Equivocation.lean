import App20.Negotiation.Transcript

/-!
# Equivocation

Transcripts of one conversation that are evaluated against one store. The store remembers the digest
of each author at each revision; two accepted transcripts whose root offers are of one role have the
same author at every revision, so they are one transcript.

* `verifyDocuments_remembers`: what the store knows after an evaluation.
* `one_agreement`: two accepted transcripts with root offers of one role accept the same terms.
-/

namespace App20.Negotiation

open App20.Lib App20.Domain

variable {host : Host} {bindings : NegotiationRoleBindings host}

/-! ## What is remembered -/

/-- Everything that one store remembers is remembered by the other. -/
def Grows (store store' : EquivocationStore) : Prop :=
  ∀ key digest, store key = some digest → store' key = some digest

theorem Grows.trans {a b c : EquivocationStore} (h : Grows a b) (h' : Grows b c) : Grows a c :=
  fun key digest hkey => h' key digest (h key digest hkey)

def SignedNegotiationDocumentV1.key (d : SignedNegotiationDocumentV1) : Text :=
  consumptionKey d.document.conversationId d.document.authorRole.value d.document.revision

def Remembers (store : EquivocationStore) (d : SignedNegotiationDocumentV1) : Prop :=
  store d.key = some d.documentDigest

variable {store : EquivocationStore} {result : Option EquivocationStore} {values : List Json}
  {documents : List SignedNegotiationDocumentV1} {root : SignedNegotiationDocumentV1}
  {transcript : NegotiationTranscript}

theorem consumeSigned_ok {d : SignedNegotiationDocumentV1}
    (h : consumeSigned (some store) d = .ok result) :
    ∃ store', result = some store' ∧ Grows store store' ∧ Remembers store' d := by
  simp only [consumeSigned, bind_ok, pure_ok] at h
  obtain ⟨⟨store', consumed⟩, hconsume, rfl⟩ := h
  refine ⟨store', rfl, ?_⟩
  unfold consume at hconsume
  dsimp only at hconsume
  split at hconsume
  · rename_i hnone
    cases hconsume
    refine ⟨fun key digest hkey => ?_, Function.update_self _ _ _⟩
    rw [Function.update_of_ne]
    · exact hkey
    · rintro rfl
      rw [hnone] at hkey
      cases hkey
  · rename_i prior hprior
    split at hconsume
    · cases hconsume
    · rename_i hsame
      rw [not_not] at hsame
      cases hconsume
      refine ⟨fun _ _ hkey => hkey, ?_⟩
      rw [hsame] at hprior
      exact hprior

/-- After documents are verified, with what was remembered before and, if all went well, with all of
them remembered. -/
theorem verifyDocuments_remembers {outcome : Except String (List SignedNegotiationDocumentV1)}
    (h : verifyDocuments host bindings (some store) values = (result, outcome)) :
    ∃ store', result = some store' ∧ Grows store store' ∧
      ∀ documents, outcome = .ok documents → ∀ d ∈ documents, Remembers store' d := by
  induction values generalizing store result outcome with
  | nil =>
    cases h
    refine ⟨store, rfl, fun _ _ hkey => hkey, fun documents hdocuments d hd => ?_⟩
    cases hdocuments
    cases hd
  | cons value values ih =>
    have hstays : ∀ e : String, (some store, Except.error e) = (result, outcome) →
        ∃ store', result = some store' ∧ Grows store store' ∧
          ∀ documents, outcome = .ok documents → ∀ d ∈ documents, Remembers store' d := by
      intro e he
      cases he
      exact ⟨store, rfl, fun _ _ hkey => hkey, fun documents hdocuments => by cases hdocuments⟩
    unfold verifyDocuments at h
    split at h
    · exact hstays _ h
    · rename_i signed _
      dsimp only at h
      split at h
      · exact hstays _ h
      · split at h
        · exact hstays _ h
        · rename_i store₁ hconsume
          obtain ⟨store₁, rfl, hgrows, hremembers⟩ := consumeSigned_ok hconsume
          cases hrest : verifyDocuments host bindings (some store₁) values with
          | mk store₂ rest =>
            obtain ⟨store', rfl, hgrows', hrest'⟩ := ih hrest
            rw [hrest] at h
            cases h
            refine ⟨store', rfl, hgrows.trans hgrows', fun documents hdocuments d hd => ?_⟩
            cases rest with
            | error e => cases hdocuments
            | ok rest =>
              cases hdocuments
              rcases List.mem_cons.mp hd with rfl | hd
              · exact hgrows' _ _ hremembers
              · exact hrest' rest rfl d hd

theorem evaluate_grows {now : Json} {outcome : Except String NegotiationTranscript}
    (h : evaluateNegotiationTranscript host values now bindings (some store) = (result, outcome)) :
    ∃ store', result = some store' ∧ Grows store store' := by
  unfold evaluateNegotiationTranscript at h
  split at h
  · cases h
    exact ⟨store, rfl, fun _ _ hkey => hkey⟩
  · split at h
    · cases h
      exact ⟨store, rfl, fun _ _ hkey => hkey⟩
    · cases hverified : verifyDocuments host bindings (some store) values with
      | mk store₁ documents =>
        obtain ⟨store', rfl, hgrows, -⟩ := verifyDocuments_remembers hverified
        rw [hverified] at h
        cases h
        exact ⟨store', rfl, hgrows⟩

/-! ## Evaluations in turn -/

/-- A transcript to evaluate, at a time and under bindings. -/
structure Evaluation (host : Host) where
  values : List Json
  now : Json
  bindings : NegotiationRoleBindings host

def evaluateAll (store : Option EquivocationStore) (evaluations : List (Evaluation host)) :
    Option EquivocationStore :=
  evaluations.foldl (fun store e =>
    (evaluateNegotiationTranscript host e.values e.now e.bindings store).1) store

theorem evaluateAll_grows (evaluations : List (Evaluation host)) :
    ∃ store', evaluateAll (some store) evaluations = some store' ∧ Grows store store' := by
  induction evaluations generalizing store with
  | nil => exact ⟨store, rfl, fun _ _ hkey => hkey⟩
  | cons e evaluations ih =>
    obtain ⟨store₁, hstore₁, hgrows⟩ := evaluate_grows (rfl :
      evaluateNegotiationTranscript host e.values e.now e.bindings (some store) = (_, _))
    obtain ⟨store', hstore', hgrows'⟩ := @ih store₁
    refine ⟨store', ?_, hgrows.trans hgrows'⟩
    rw [← hstore', ← hstore₁]
    rfl

/-! ## Chains of one initiator -/

/-- No two canonical texts of these documents have one hash. -/
def NoCollision (host : Host) (documents : List SignedNegotiationDocumentV1) : Prop :=
  ∀ a ∈ documents, ∀ b ∈ documents, ∀ s t, canonicalNegotiationDocument host a.document = .ok s →
    canonicalNegotiationDocument host b.document = .ok t → host.sha256 s = host.sha256 t → s = t

theorem noCollision_iff :
    (∀ a ∈ documents, ∀ b ∈ documents,
      ∀ s ∈ (canonicalNegotiationDocument host a.document).toOption,
      ∀ t ∈ (canonicalNegotiationDocument host b.document).toOption,
        host.sha256 s = host.sha256 t → s = t) ↔ NoCollision host documents := by
  constructor
  · intro h a ha b hb s t hs ht
    refine h a ha b hb s ?_ t ?_
    · rw [hs]
      rfl
    · rw [ht]
      rfl
  · intro h a ha b hb s hs t ht
    exact h a ha b hb s t (toOption_eq_some hs) (toOption_eq_some ht)

instance (documents : List SignedNegotiationDocumentV1) : Decidable (NoCollision host documents) :=
  decidable_of_iff _ noCollision_iff

/-- A chain that ends in its one acceptance. -/
def EndsWith (digest : Text) : List SignedNegotiationDocumentV1 → Prop
  | [] => False
  | [d] => d.document.body = .accept digest
  | d :: d' :: rest => (∀ x, d.document.body ≠ .accept x) ∧ EndsWith digest (d' :: rest)

theorem endsWith_of_shape {counters : List SignedNegotiationDocumentV1}
    {acceptance : SignedNegotiationDocumentV1} {digest : Text}
    (hroot : ∀ x, root.document.body ≠ .accept x) (hcounters : ∀ c ∈ counters, IsCounter c)
    (haccepts : acceptance.document.body = .accept digest) :
    EndsWith digest (root :: (counters ++ [acceptance])) := by
  induction counters generalizing root with
  | nil => exact ⟨hroot, haccepts⟩
  | cons c counters ih =>
    refine ⟨hroot, ih (fun x hx => ?_) fun d hd => hcounters d (List.mem_cons_of_mem _ hd)⟩
    obtain ⟨terms, termsDigest, attachments, hc⟩ := hcounters c List.mem_cons_self
    rw [hc] at hx
    cases hx

def Digested (host : Host) (d : SignedNegotiationDocumentV1) : Prop :=
  (∃ v, normalizeNegotiationDocument host v = .ok d.document) ∧
    negotiationDocumentDigest host d.document = .ok d.documentDigest

theorem accept_of_digest (hcollision : NoCollision host documents)
    {a b : SignedNegotiationDocumentV1} (ha : a ∈ documents) (hb : b ∈ documents)
    (hda : Digested host a) (hdb : Digested host b) (hdigest : a.documentDigest = b.documentDigest)
    {x : Text} (hbody : a.document.body = .accept x) : b.document.body = .accept x := by
  obtain ⟨⟨v, hv⟩, hac⟩ := hda
  obtain ⟨⟨w, hw⟩, hbc⟩ := hdb
  simp only [negotiationDocumentDigest, bind_ok, pure_ok] at hac hbc
  obtain ⟨s, hs, hsd⟩ := hac
  obtain ⟨t, ht, htd⟩ := hbc
  have hhash : host.sha256 s = host.sha256 t :=
    Channel.digestBytes_inj (hsd.symm.trans (hdigest.trans htd))
  have heq := hcollision a ha b hb s t hs ht hhash
  rw [← heq] at ht
  exact canonical_accept hv hw hs ht hbody

theorem other_role {a b c : NegotiationRole} (h : b ≠ a) (h' : c ≠ a) : b = c := by
  cases a <;> cases b <;> cases c <;> first | rfl | exact absurd rfl h | exact absurd rfl h'

theorem same_end (hcollision : NoCollision host documents) {a b : SignedNegotiationDocumentV1}
    {as bs : List SignedNegotiationDocumentV1} {x y : Text}
    (has : ∀ d ∈ a :: as, d ∈ documents ∧ Digested host d ∧ Remembers store d)
    (hbs : ∀ d ∈ b :: bs, d ∈ documents ∧ Digested host d ∧ Remembers store d)
    (hachain : List.IsChain Answers (a :: as)) (hbchain : List.IsChain Answers (b :: bs))
    (hrole : a.document.authorRole.value = b.document.authorRole.value)
    (hrevision : a.document.revision = b.document.revision)
    (hconversation : a.document.conversationId = b.document.conversationId)
    (haends : EndsWith x (a :: as)) (hbends : EndsWith y (b :: bs)) : x = y := by
  induction as generalizing a b bs with
  | nil =>
    obtain ⟨ha, hda, hra⟩ := has a List.mem_cons_self
    obtain ⟨hb, hdb, hrb⟩ := hbs b List.mem_cons_self
    have hdigest : a.documentDigest = b.documentDigest := by
      unfold Remembers SignedNegotiationDocumentV1.key at hra hrb
      rw [hrole, hrevision, hconversation, hrb] at hra
      exact (Option.some.inj hra).symm
    have hbody := accept_of_digest hcollision ha hb hda hdb hdigest haends
    cases bs with
    | nil =>
      have hsame := hbody.symm.trans hbends
      cases hsame
      rfl
    | cons b' bs => exact absurd hbody (hbends.1 x)
  | cons a' as ih =>
    obtain ⟨ha, hda, hra⟩ := has a List.mem_cons_self
    obtain ⟨hb, hdb, hrb⟩ := hbs b List.mem_cons_self
    have hdigest : b.documentDigest = a.documentDigest := by
      unfold Remembers SignedNegotiationDocumentV1.key at hra hrb
      rw [hrole, hrevision, hconversation, hrb] at hra
      exact Option.some.inj hra
    cases bs with
    | nil =>
      exact absurd (accept_of_digest hcollision hb ha hdb hda hdigest hbends) (haends.1 y)
    | cons b' bs =>
      obtain ⟨haa, hachain⟩ := List.isChain_cons_cons.mp hachain
      obtain ⟨hbb, hbchain⟩ := List.isChain_cons_cons.mp hbchain
      refine ih (fun d hd => has d (List.mem_cons_of_mem _ hd))
        (fun d hd => hbs d (List.mem_cons_of_mem _ hd)) hachain hbchain ?_ ?_ ?_ haends.2 hbends.2
      · exact other_role haa.role (hrole ▸ hbb.role)
      · rw [haa.revision, hbb.revision, hrevision]
      · rw [haa.conversation, hbb.conversation, hconversation]

/-! ## One agreement -/

def verifiedOf (host : Host) (values : List Json) : List SignedNegotiationDocumentV1 :=
  values.filterMap (verifySignedNegotiationDocument host)

/-- The role of the first document. -/
def initiator (host : Host) (values : List Json) : Option NegotiationRole :=
  (verifiedOf host values).head?.map (·.document.authorRole.value)

structure AcceptedChain (host : Host) (store : EquivocationStore) (values : List Json)
    (transcript : NegotiationTranscript) (root : SignedNegotiationDocumentV1)
    (rest : List SignedNegotiationDocumentV1) : Prop where
  verified : verifiedOf host values = root :: rest
  chain : List.IsChain Answers (root :: rest)
  revision : root.document.revision = 1
  conversation : root.document.conversationId = transcript.conversationId
  ends : EndsWith transcript.activeTermsDigest (root :: rest)
  digested : ∀ d ∈ root :: rest, Digested host d
  remembered : ∀ d ∈ root :: rest, Remembers store d

theorem accepted_chain {now : Json} (hroles : ∀ value ∈ values, RoleWritten value)
    (h : evaluateNegotiationTranscript host values now bindings (some store) =
      (result, .ok transcript)) (haccepted : transcript.state = .accepted) :
    ∃ store' root rest, result = some store' ∧ AcceptedChain host store' values transcript root rest := by
  obtain ⟨time, documents, -, hverified, hdocuments⟩ := evaluate_ok h
  obtain ⟨store', hstore', -, hremembers⟩ := verifyDocuments_remembers hverified
  have hbound := verifyDocuments_ok hverified
  obtain ⟨root, rest, terms, digest, attachments, rfl, hoffer, hrevision, -, hfollow,
    hconversation, -⟩ := evaluateDocuments_accepted hdocuments haccepted
  have htexts : ∀ d ∈ root :: rest, RoleIsText d := fun d hd => by
    obtain ⟨value, hvalue, hd⟩ := BoundTo.of_mem hbound hd
    exact hd.roleIsText (hroles value hvalue)
  have hroot : Proposes root digest terms.intentDigest := by
    refine ⟨terms, ?_, ?_, rfl⟩
    · rw [hoffer]
      rfl
    · rw [hoffer]
      rfl
  obtain ⟨⟨counters, acceptance, proposal, rfl, hcounters, -, -, hbody⟩, hchain⟩ :=
    followDocuments_accepted rfl hroot htexts hfollow
  refine ⟨store', root, counters ++ [acceptance], hstore', ?_, hchain, hrevision,
    hconversation.symm, endsWith_of_shape ?_ (fun c hc => (hcounters c hc).1) hbody, ?_,
    hremembers _ rfl⟩
  · have hvalues := congrArg (List.filterMap id) (BoundTo.values hbound)
    rw [List.filterMap_map, List.filterMap_map] at hvalues
    exact hvalues.trans (List.filterMap_some)
  · intro x hx
    rw [hoffer] at hx
    cases hx
  · intro d hd
    obtain ⟨value, -, hd⟩ := BoundTo.of_mem hbound hd
    obtain ⟨hdocument, hdigest, -⟩ := verifySigned_ok hd.verified
    exact ⟨⟨_, hdocument⟩, hdigest⟩

theorem AcceptedChain.grows {store' : EquivocationStore} {rest : List SignedNegotiationDocumentV1}
    (h : AcceptedChain host store values transcript root rest) (hgrows : Grows store store') :
    AcceptedChain host store' values transcript root rest :=
  { h with remembered := fun d hd => hgrows _ _ (h.remembered d hd) }

theorem AcceptedChain.initiator_eq {rest : List SignedNegotiationDocumentV1}
    (h : AcceptedChain host store values transcript root rest) :
    initiator host values = some root.document.authorRole.value := by
  rw [initiator, h.verified]
  rfl

theorem one_agreement {values₁ values₂ : List Json} {now₁ now₂ : Json}
    {store : EquivocationStore} {store₁ store₂ : Option EquivocationStore}
    {transcript₁ transcript₂ : NegotiationTranscript} (between : List (Evaluation host))
    (hhash : NoCollision host (verifiedOf host (values₁ ++ values₂)))
    (hroles : ∀ value ∈ values₁ ++ values₂, RoleWritten value)
    (h₁ : evaluateNegotiationTranscript host values₁ now₁ bindings (some store) =
      (store₁, .ok transcript₁))
    (h₂ : evaluateNegotiationTranscript host values₂ now₂ bindings (evaluateAll store₁ between) =
      (store₂, .ok transcript₂))
    (haccepted₁ : transcript₁.state = .accepted) (haccepted₂ : transcript₂.state = .accepted)
    (hconversation : transcript₁.conversationId = transcript₂.conversationId)
    (hinitiator : initiator host values₁ = initiator host values₂) :
    transcript₁.activeTermsDigest = transcript₂.activeTermsDigest := by
  obtain ⟨s₁, root₁, rest₁, rfl, hchain₁⟩ :=
    accepted_chain (fun v hv => hroles v (List.mem_append_left _ hv)) h₁ haccepted₁
  obtain ⟨s, hs, hgrows⟩ := @evaluateAll_grows host s₁ between
  rw [hs] at h₂
  obtain ⟨s₂, root₂, rest₂, rfl, hchain₂⟩ :=
    accepted_chain (fun v hv => hroles v (List.mem_append_right _ hv)) h₂ haccepted₂
  obtain ⟨s', hs', hgrows'⟩ := evaluate_grows h₂
  cases hs'
  have hchain₁ := hchain₁.grows (hgrows.trans hgrows')
  have hdocuments : verifiedOf host (values₁ ++ values₂) = (root₁ :: rest₁) ++ (root₂ :: rest₂) := by
    rw [verifiedOf, List.filterMap_append, ← hchain₁.verified, ← hchain₂.verified]
    rfl
  rw [hdocuments] at hhash
  refine same_end hhash
    (fun d hd => ⟨List.mem_append_left _ hd, hchain₁.digested d hd, hchain₁.remembered d hd⟩)
    (fun d hd => ⟨List.mem_append_right _ hd, hchain₂.digested d hd, hchain₂.remembered d hd⟩)
    hchain₁.chain hchain₂.chain ?_ (hchain₁.revision.trans hchain₂.revision.symm) ?_ hchain₁.ends
    hchain₂.ends
  · rw [hchain₁.initiator_eq, hchain₂.initiator_eq] at hinitiator
    exact Option.some.inj hinitiator
  · rw [hchain₁.conversation, hchain₂.conversation, hconversation]

def noDocuments : EquivocationStore := fun _ => none

/-- The offer of the taker that the maker accepts. -/
def takerAgreement : List Json := agreementOf .taker "7".toList (.text .maker) 15

/-- The offer of the maker that the taker accepts. -/
def makerAgreement : List Json := agreementOf .maker "8".toList (.text .taker) 15

/-- The two results of two transcripts in turn. -/
def evaluateTwo (values₁ values₂ : List Json) :
    Except String NegotiationTranscript × Except String NegotiationTranscript :=
  let (store, first) :=
    evaluateNegotiationTranscript plainHost values₁ (.number 12) plainBindings (some noDocuments)
  (first, (evaluateNegotiationTranscript plainHost values₂ (.number 12) plainBindings store).2)

theorem evaluateTwo_ok {values₁ values₂ : List Json} {transcript₁ transcript₂ : NegotiationTranscript}
    (h₁ : (evaluateTwo values₁ values₂).1 = .ok transcript₁)
    (h₂ : (evaluateTwo values₁ values₂).2 = .ok transcript₂) :
    ∃ store₁ store₂, evaluateNegotiationTranscript plainHost values₁ (.number 12) plainBindings
        (some noDocuments) = (store₁, .ok transcript₁) ∧
      evaluateNegotiationTranscript plainHost values₂ (.number 12) plainBindings store₁ =
        (store₂, .ok transcript₂) := by
  refine ⟨_, _, Prod.ext rfl ?_, Prod.ext rfl ?_⟩
  · exact h₁
  · exact h₂

theorem one_agreement_plain :
    ∃ transcript₁ transcript₂, evaluateTwo takerAgreement takerAgreement =
        (.ok transcript₁, .ok transcript₂) ∧
      transcript₁.activeTermsDigest = transcript₂.activeTermsDigest := by
  have hstates : stateOf (evaluateTwo takerAgreement takerAgreement).1 = some .accepted ∧
      stateOf (evaluateTwo takerAgreement takerAgreement).2 = some .accepted := by decide +kernel
  obtain ⟨transcript₁, hresult₁, haccepted₁⟩ := ok_of_stateOf hstates.1
  obtain ⟨transcript₂, hresult₂, haccepted₂⟩ := ok_of_stateOf hstates.2
  have hroles : ∀ value ∈ takerAgreement ++ takerAgreement, RoleWritten value := by
    intro value hvalue
    have hvalue : value ∈ takerAgreement := (List.mem_append.mp hvalue).elim id id
    rcases List.mem_cons.mp hvalue with rfl | hvalue
    · exact ⟨"taker".toList, rfl⟩
    · rw [List.mem_singleton.mp hvalue]
      exact ⟨"maker".toList, rfl⟩
  have hconversation : transcript₁.conversationId = transcript₂.conversationId := by
    have hsame : (evaluateTwo takerAgreement takerAgreement).1.toOption.map (·.conversationId) =
        (evaluateTwo takerAgreement takerAgreement).2.toOption.map (·.conversationId) := by
      decide +kernel
    rw [hresult₁, hresult₂] at hsame
    exact Option.some.inj hsame
  have hhash : NoCollision plainHost (verifiedOf plainHost (takerAgreement ++ takerAgreement)) := by
    decide +kernel
  obtain ⟨store₁, store₂, h₁, h₂⟩ := evaluateTwo_ok hresult₁ hresult₂
  refine ⟨transcript₁, transcript₂, Prod.ext hresult₁ hresult₂, ?_⟩
  exact one_agreement [] hhash hroles h₁ h₂ haccepted₁ haccepted₂ hconversation rfl

/-- An offer of each party in one conversation, both accepted, with different terms. -/
theorem two_agreements :
    ∃ transcript₁ transcript₂, evaluateTwo takerAgreement makerAgreement =
        (.ok transcript₁, .ok transcript₂) ∧
      transcript₁.state = .accepted ∧ transcript₂.state = .accepted ∧
      transcript₁.conversationId = transcript₂.conversationId ∧
      transcript₁.activeTermsDigest ≠ transcript₂.activeTermsDigest := by
  have hboth : ∃ transcript₁ ∈ (evaluateTwo takerAgreement makerAgreement).1.toOption,
      ∃ transcript₂ ∈ (evaluateTwo takerAgreement makerAgreement).2.toOption,
        transcript₁.state = .accepted ∧ transcript₂.state = .accepted ∧
        transcript₁.conversationId = transcript₂.conversationId ∧
        transcript₁.activeTermsDigest ≠ transcript₂.activeTermsDigest := by
    decide +kernel
  obtain ⟨transcript₁, h₁, transcript₂, h₂, hstates⟩ := hboth
  exact ⟨transcript₁, transcript₂, Prod.ext (toOption_eq_some h₁) (toOption_eq_some h₂), hstates⟩

end App20.Negotiation
