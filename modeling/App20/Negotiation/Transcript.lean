import App20.Channel.ChannelRuns
import App20.Negotiation.Documents

/-!
# Negotiation transcripts

A transcript is evaluated document by document: each is verified, bound to the wallet of its role and
remembered in the store that looks for equivocation; then the chain from the root offer is followed.

* `followDocuments_accepted`: what a chain says that ends in an acceptance.
* `accepted_transcript`: what an accepted transcript says, when roles are written as texts.
-/

namespace App20.Negotiation

open App20.Lib App20.Domain
open App20.Intents (bytesToHex)
open App20.Channel (Binding VerifiedWalletMailBinding hexToBytes zeros sha256Prefix zeroDigest
  walletMailBindingDomain walletMailBindingStatementDigest WalletMailBindingStatementV1
  WalletMailBindingCertificateV1 digestBytes)
open App20.Reservation (maxSafeInteger)

structure NegotiationRoleBindings (host : Host) where
  taker : Binding host.toHost
  maker : Binding host.toHost

def NegotiationRoleBindings.of {host : Host} (bindings : NegotiationRoleBindings host) :
    NegotiationRole → VerifiedWalletMailBinding
  | .taker => bindings.taker.1
  | .maker => bindings.maker.1

/-! ## Equivocation -/

/-- The map of `createMemoryNegotiationEquivocationStore`. -/
abbrev EquivocationStore := Text → Option Text

inductive Consumed where
  | new | duplicate

def consumptionKey (conversationId : Text) (authorRole : NegotiationRole) (revision : Int) : Text :=
  conversationId ++ ':' :: (authorRole.name ++ ':' :: decimal revision)

def consume (store : EquivocationStore) (conversationId : Text) (authorRole : NegotiationRole)
    (revision : Int) (documentDigest : Text) : Except String (EquivocationStore × Consumed) :=
  let key := consumptionKey conversationId authorRole revision
  match store key with
  | none => .ok (Function.update store key (some documentDigest), .new)
  | some prior =>
    if prior ≠ documentDigest then .error "Negotiation author equivocated at the same revision."
    else .ok (store, .duplicate)

/-- `equivocationStore?.consume`: the role is written into the key as a text. -/
def consumeSigned (store : Option EquivocationStore) (signed : SignedNegotiationDocumentV1) :
    Except String (Option EquivocationStore) :=
  match store with
  | none => .ok none
  | some store => do
    let (store, _) ← consume store signed.document.conversationId signed.document.authorRole.value
      signed.document.revision signed.documentDigest
    return some store

/-! ## Evaluation -/

inductive TranscriptState where
  | opened | accepted | cancelled | expired
  deriving DecidableEq

structure NegotiationTranscript where
  state : TranscriptState
  conversationId : Text
  intentDigest : Text
  latestDocumentDigest : Text
  activeTermsDigest : Text
  revisions : Nat

/-- The documents are verified in turn. What was remembered before one failed stays. -/
def verifyDocuments (host : Host) (bindings : NegotiationRoleBindings host) :
    Option EquivocationStore → List Json →
      Option EquivocationStore × Except String (List SignedNegotiationDocumentV1)
  | store, [] => (store, .ok [])
  | store, value :: values =>
    match verifySignedNegotiationDocument host value with
    | none => (store, .error "Negotiation transcript signature is invalid.")
    | some signed =>
      let binding := bindings.of signed.document.authorRole.value
      if signed.document.authorBindingDigest ≠ binding.certificateDigest ∨
          signed.authPublicKey ≠ binding.certificate.statement.authPublicKey then
        (store, .error "Negotiation signer does not match the wallet-bound role.")
      else
        match consumeSigned store signed with
        | .error e => (store, .error e)
        | .ok store =>
          let (store, rest) := verifyDocuments host bindings store values
          (store, rest.map (signed :: ·))

/-- One document of the loop, with the state and the active terms digest before it. -/
def followDocument (first : SignedNegotiationDocumentV1) (firstIntent : Text)
    (state : TranscriptState) (active : Text) (previous current : SignedNegotiationDocumentV1) :
    Except String (TranscriptState × Text) := do
  throwIf (state ≠ .opened)
    "Negotiation transcript cannot continue after a terminal document."
  throwIf (current.document.conversationId ≠ first.document.conversationId ∨
      current.document.revision ≠ previous.document.revision + 1 ∨
      current.document.parentDigest ≠ some previous.documentDigest ∨
      current.document.createdAt < previous.document.createdAt ∨
      previous.document.expiresAt < current.document.createdAt)
    "Negotiation transcript revision chain is invalid."
  let previousIntent := (previous.document.body.terms?.map (·.intentDigest)).getD firstIntent
  throwIf ((current.document.body.terms?.any fun terms => terms.intentDigest ≠ previousIntent) = true)
    "Negotiation transcript cannot change the bound intent."
  match current.document.body with
  | .counter _ termsDigest _ =>
    throwIf (current.document.authorRole.same previous.document.authorRole = true)
      "A negotiation counter must come from the other party."
    return (state, termsDigest)
  | .accept acceptedTermsDigest =>
    throwIf (current.document.authorRole.same previous.document.authorRole = true ∨
        acceptedTermsDigest ≠ active)
      "Negotiation acceptance does not bind the active terms."
    return (.accepted, active)
  | .cancel cancelledTermsDigest _ =>
    throwIf (cancelledTermsDigest ≠ active)
      "Negotiation cancellation does not bind the active terms."
    return (.cancelled, active)
  | .offer .. => .error "Only a counter, acceptance, or cancellation may follow an offer."

def followDocuments (first : SignedNegotiationDocumentV1) (firstIntent : Text) :
    TranscriptState → Text → SignedNegotiationDocumentV1 → List SignedNegotiationDocumentV1 →
      Except String (TranscriptState × Text)
  | state, active, _, [] => .ok (state, active)
  | state, active, previous, current :: rest => do
    let (state, active) ← followDocument first firstIntent state active previous current
    followDocuments first firstIntent state active current rest

def evaluateDocuments (now : Int) :
    List SignedNegotiationDocumentV1 → Except String NegotiationTranscript
  | [] => .error "Negotiation transcript cannot be empty."
  | first :: rest =>
    match first.document.body with
    | .offer terms termsDigest _ => do
      throwIf (first.document.revision ≠ 1 ∨ first.document.parentDigest ≠ none)
        "Negotiation transcript must start with a root offer."
      let (state, active) ←
        followDocuments first terms.intentDigest .opened termsDigest first rest
      let latest := rest.getLast?.getD first
      return {
        state := if state = .opened ∧ latest.document.expiresAt < now then .expired else state
        conversationId := first.document.conversationId
        intentDigest := terms.intentDigest
        latestDocumentDigest := latest.documentDigest
        activeTermsDigest := active
        revisions := (first :: rest).length }
    | _ => .error "Negotiation transcript must start with a root offer."

def evaluationTime (now : Json) : Except String Int :=
  match now with
  | .number n =>
    if 0 < n ∧ n ≤ maxSafeInteger then .ok n
    else .error "Negotiation evaluation time is invalid."
  | _ => .error "Negotiation evaluation time is invalid."

/-- The store after the evaluation, and its result. -/
def evaluateNegotiationTranscript (host : Host) (values : List Json) (now : Json)
    (bindings : NegotiationRoleBindings host) (store : Option EquivocationStore) :
    Option EquivocationStore × Except String NegotiationTranscript :=
  match evaluationTime now with
  | .error e => (store, .error e)
  | .ok now =>
    if values = [] then (store, .error "Negotiation transcript cannot be empty.")
    else
      let (store, documents) := verifyDocuments host bindings store values
      (store, documents.bind (evaluateDocuments now))

/-! ## Verified documents -/

variable {host : Host} {bindings : NegotiationRoleBindings host}

structure BoundTo (bindings : NegotiationRoleBindings host) (value : Json)
    (signed : SignedNegotiationDocumentV1) : Prop where
  verified : verifySignedNegotiationDocument host value = some signed
  digest : signed.document.authorBindingDigest =
    (bindings.of signed.document.authorRole.value).certificateDigest
  key : signed.authPublicKey =
    (bindings.of signed.document.authorRole.value).certificate.statement.authPublicKey

variable {documents : List SignedNegotiationDocumentV1}
  {first previous : SignedNegotiationDocumentV1} {intent active : Text} {state : TranscriptState}

theorem verifyDocuments_ok {store store' : Option EquivocationStore} {values : List Json}
    (h : verifyDocuments host bindings store values = (store', .ok documents)) :
    List.Forall₂ (BoundTo bindings) values documents := by
  induction values generalizing store documents with
  | nil =>
    cases h
    exact .nil
  | cons value values ih =>
    unfold verifyDocuments at h
    split at h
    · cases h
    · rename_i signed hsigned
      dsimp only at h
      split at h
      · cases h
      · rename_i hbound
        rw [not_or, not_not, not_not] at hbound
        split at h
        · cases h
        · rename_i store₁ _
          cases hrest : verifyDocuments host bindings store₁ values with
          | mk store₂ rest =>
            rw [hrest] at h
            cases rest with
            | error e => cases h
            | ok rest =>
              cases h
              exact .cons ⟨hsigned, hbound.1, hbound.2⟩ (ih hrest)

theorem BoundTo.of_mem {values : List Json} (h : List.Forall₂ (BoundTo bindings) values documents)
    {d : SignedNegotiationDocumentV1} (hd : d ∈ documents) :
    ∃ value ∈ values, BoundTo bindings value d := by
  induction h with
  | nil => cases hd
  | cons hbound hrest ih =>
    rcases List.mem_cons.mp hd with rfl | hd
    · exact ⟨_, List.mem_cons_self, hbound⟩
    · obtain ⟨value, hvalue, hbound⟩ := ih hd
      exact ⟨value, List.mem_cons_of_mem _ hvalue, hbound⟩

theorem BoundTo.values {values : List Json} (h : List.Forall₂ (BoundTo bindings) values documents) :
    values.map (verifySignedNegotiationDocument host) = documents.map some := by
  induction h with
  | nil => rfl
  | cons hbound hrest ih => rw [List.map_cons, List.map_cons, hbound.verified, ih]

/-! ## Chains -/

def RoleIsText (signed : SignedNegotiationDocumentV1) : Prop :=
  ∃ role, signed.document.authorRole = .text role

/-- A document goes on from the one before it: it is of the other role, and not made after the expiry
of what it answers. -/
structure Answers (previous current : SignedNegotiationDocumentV1) : Prop where
  conversation : current.document.conversationId = previous.document.conversationId
  revision : current.document.revision = previous.document.revision + 1
  parent : current.document.parentDigest = some previous.documentDigest
  role : current.document.authorRole.value ≠ previous.document.authorRole.value
  ordered : previous.document.createdAt ≤ current.document.createdAt
  inTime : current.document.createdAt ≤ previous.document.expiresAt

def IsCounter (signed : SignedNegotiationDocumentV1) : Prop :=
  ∃ terms termsDigest attachments, signed.document.body = .counter terms termsDigest attachments

def Proposes (signed : SignedNegotiationDocumentV1) (termsDigest intent : Text) : Prop :=
  ∃ terms, signed.document.body.terms? = some terms ∧
    signed.document.body.termsDigest? = some termsDigest ∧ terms.intentDigest = intent

theorem value_ne_of_same {a b : Spelled NegotiationRole} (ha : ∃ r, a = .text r)
    (hb : ∃ r, b = .text r) (h : ¬ a.same b = true) : a.value ≠ b.value := by
  obtain ⟨r, rfl⟩ := ha
  obtain ⟨s, rfl⟩ := hb
  intro heq
  exact h (decide_eq_true heq)

theorem followDocument_ok {current : SignedNegotiationDocumentV1} {active' : Text}
    {state' : TranscriptState}
    (hfirst : previous.document.conversationId = first.document.conversationId)
    (hproposes : Proposes previous active intent) (hprevious : RoleIsText previous)
    (hcurrent : RoleIsText current)
    (h : followDocument first intent state active previous current = .ok (state', active')) :
    state = .opened ∧ (state' = .opened → Answers previous current ∧ IsCounter current ∧
        Proposes current active' intent) ∧
      (state' = .accepted → Answers previous current ∧ active' = active ∧
        current.document.body = .accept active) ∧ state' ≠ .expired := by
  obtain ⟨previousTerms, hterms, -, hintent⟩ := hproposes
  simp only [followDocument, bind_ok, throwIf_ok, exists_unit, not_or, not_not, not_lt] at h
  obtain ⟨hstate, ⟨hconversation, hrevision, hparent, hordered, hintime⟩, hsame, h⟩ := h
  have hanswers : ¬ current.document.authorRole.same previous.document.authorRole = true →
      Answers previous current := fun hrole =>
    ⟨hconversation.trans hfirst.symm, hrevision, hparent,
      value_ne_of_same hcurrent hprevious hrole, hordered, hintime⟩
  rw [hterms, Option.map_some, Option.getD_some, hintent] at hsame
  refine ⟨hstate, ?_⟩
  split at h
  · rename_i terms termsDigest attachments hbody
    simp only [bind_ok, throwIf_ok, exists_unit, pure_ok, Prod.mk.injEq] at h
    obtain ⟨hrole, hopened, rfl⟩ := h
    rw [hbody] at hsame
    have hterms : current.document.body.terms? = some terms := by rw [hbody]; rfl
    have hdigest : current.document.body.termsDigest? = some active' := by rw [hbody]; rfl
    have hkept : terms.intentDigest = intent := by
      by_contra hne
      exact hsame (decide_eq_true hne)
    refine ⟨fun _ => ⟨hanswers hrole, ⟨terms, active', attachments, hbody⟩, terms, hterms,
      hdigest, hkept⟩, fun haccepted => ?_, fun hexpired => ?_⟩
    · rw [hopened, hstate] at haccepted
      cases haccepted
    · rw [hopened, hstate] at hexpired
      cases hexpired
  · rename_i acceptedTermsDigest hbody
    simp only [bind_ok, throwIf_ok, exists_unit, pure_ok, Prod.mk.injEq, not_or, not_not] at h
    obtain ⟨⟨hrole, hdigest⟩, rfl, rfl⟩ := h
    refine ⟨fun hopened => (by cases hopened), fun _ => ⟨hanswers hrole, rfl, ?_⟩, fun hexpired =>
      (by cases hexpired)⟩
    rw [hbody, hdigest]
  · simp only [bind_ok, throwIf_ok, exists_unit, pure_ok, Prod.mk.injEq] at h
    obtain ⟨-, rfl, rfl⟩ := h
    exact ⟨fun hopened => (by cases hopened), fun haccepted => (by cases haccepted), fun hexpired =>
      (by cases hexpired)⟩
  · cases h

theorem followDocuments_terminal {rest : List SignedNegotiationDocumentV1}
    {result : TranscriptState × Text} (hstate : state ≠ .opened)
    (h : followDocuments first intent state active previous rest = .ok result) :
    rest = [] ∧ result = (state, active) := by
  cases rest with
  | nil =>
    cases h
    exact ⟨rfl, rfl⟩
  | cons current rest =>
    simp only [followDocuments, followDocument, bind_ok, throwIf_ok, exists_unit] at h
    obtain ⟨_, ⟨hopened, -⟩, -⟩ := h
    exact absurd hstate hopened

/-- A chain that ends in an acceptance: counters, and an acceptance of the last terms. -/
structure Accepted (previous : SignedNegotiationDocumentV1) (rest : List SignedNegotiationDocumentV1)
    (intent active : Text) : Prop where
  shape : ∃ counters acceptance proposal, rest = counters ++ [acceptance] ∧
    (∀ c ∈ counters, IsCounter c ∧ ∃ digest, Proposes c digest intent) ∧
    (previous :: counters).getLast? = some proposal ∧ Proposes proposal active intent ∧
    acceptance.document.body = .accept active
  chain : List.IsChain Answers (previous :: rest)

theorem followDocuments_accepted {active' : Text} {rest : List SignedNegotiationDocumentV1}
    (hfirst : previous.document.conversationId = first.document.conversationId)
    (hproposes : Proposes previous active intent) (hroles : ∀ d ∈ previous :: rest, RoleIsText d)
    (h : followDocuments first intent .opened active previous rest = .ok (.accepted, active')) :
    Accepted previous rest intent active' := by
  induction rest generalizing previous active with
  | nil => cases h
  | cons current rest ih =>
    simp only [followDocuments, bind_ok] at h
    obtain ⟨⟨state, next⟩, hstep, h⟩ := h
    obtain ⟨-, hopened, haccepted, hnever⟩ := followDocument_ok hfirst hproposes
      (hroles previous List.mem_cons_self)
      (hroles current (List.mem_cons_of_mem _ List.mem_cons_self)) hstep
    by_cases hstate : state = .opened
    · obtain ⟨hanswers, hcounter, hnext⟩ := hopened hstate
      rw [hstate] at h
      obtain ⟨⟨counters, acceptance, proposal, rfl, hcounters, hlast, hproposal, hbody⟩, hchain⟩ :=
        ih (hanswers.conversation.trans hfirst) hnext
          (fun d hd => hroles d (List.mem_cons_of_mem _ hd)) h
      refine ⟨⟨current :: counters, acceptance, proposal, rfl, ?_, ?_, hproposal, hbody⟩,
        .cons_cons hanswers hchain⟩
      · intro c hc
        rcases List.mem_cons.mp hc with rfl | hc
        · exact ⟨hcounter, next, hnext⟩
        · exact hcounters c hc
      · rw [List.getLast?_cons_cons]
        exact hlast
    · obtain ⟨rfl, hresult⟩ := followDocuments_terminal hstate h
      cases hresult
      obtain ⟨hanswers, hactive, hbody⟩ := haccepted rfl
      rw [hactive]
      refine ⟨⟨[], current, previous, rfl, fun c hc => (by cases hc), rfl, hproposes, hbody⟩,
        .cons_cons hanswers (.singleton _)⟩

/-! ## Accepted transcripts -/

/-- The author role of a signed document is written as a text. -/
def RoleWritten (value : Json) : Prop :=
  ∃ s, (value.get? "document").bind (·.get? "authorRole") = some (.string s)

theorem BoundTo.roleIsText {value : Json} {signed : SignedNegotiationDocumentV1}
    (h : BoundTo bindings value signed) (hwritten : RoleWritten value) : RoleIsText signed := by
  obtain ⟨s, hs⟩ := hwritten
  obtain ⟨hdocument, -, -⟩ := verifySigned_ok h.verified
  obtain ⟨fields, base, hfields, hbase, -, heq⟩ := normalizeDocument_ok hdocument
  rw [hfields, Option.bind_some] at hs
  unfold normalizeBase at hbase
  rw [hs, Option.bind_some, readSpelled] at hbase
  cases hrole : readRole s with
  | none =>
    rw [hrole] at hbase
    cases hbase
  | some role =>
    rw [hrole] at hbase
    simp only [Option.map_some, bind_ok, pure_ok] at hbase
    obtain ⟨-, -, _, -, _, -, -, -, _, -, _, -, _, -, _, -, _, -, _, -, hbase⟩ := hbase
    refine ⟨role, ?_⟩
    rw [show signed.document.authorRole = base.authorRole from
      congrArg NegotiationBaseV1.authorRole heq, hbase]

/-- A transcript that is an agreement: a chain from a root offer over counters to an acceptance of
the last terms by the other role. -/
structure Agreement (bindings : NegotiationRoleBindings host)
    (SignedBy : List (Fin 256) → List (Fin 256) → Prop) (transcript : NegotiationTranscript)
    (root : SignedNegotiationDocumentV1) (counters : List SignedNegotiationDocumentV1)
    (acceptance : SignedNegotiationDocumentV1) : Prop where
  offer : ∃ terms digest attachments, root.document.body = .offer terms digest attachments
  start : root.document.revision = 1 ∧ root.document.parentDigest = none ∧
    root.document.conversationId = transcript.conversationId
  middle : ∀ c ∈ counters, IsCounter c
  chain : List.IsChain Answers (root :: (counters ++ [acceptance]))
  accepts : acceptance.document.body = .accept transcript.activeTermsDigest
  accepted : ∃ proposal terms, (root :: counters).getLast? = some proposal ∧
    proposal.document.body.terms? = some terms ∧
    negotiationTermsDigest host terms = .ok transcript.activeTermsDigest ∧
    acceptance.document.authorRole.value ≠ proposal.document.authorRole.value
  intent : ∀ p ∈ root :: counters, ∃ terms, p.document.body.terms? = some terms ∧
    terms.intentDigest = transcript.intentDigest
  signed : ∀ d ∈ root :: (counters ++ [acceptance]),
    negotiationDocumentDigest host d.document = .ok d.documentDigest ∧ d.authPublicKey =
      (bindings.of d.document.authorRole.value).certificate.statement.authPublicKey ∧
    SignedBy (hexToBytes d.authPublicKey) (signatureMessage host d.documentDigest d.authPublicKey)

theorem last_role {acceptance proposal : SignedNegotiationDocumentV1}
    {counters : List SignedNegotiationDocumentV1}
    (hchain : List.IsChain Answers (previous :: (counters ++ [acceptance])))
    (hlast : (previous :: counters).getLast? = some proposal) :
    acceptance.document.authorRole.value ≠ proposal.document.authorRole.value := by
  induction counters generalizing previous with
  | nil =>
    cases hlast
    exact (List.isChain_cons_cons.mp hchain).1.role
  | cons c counters ih =>
    rw [List.getLast?_cons_cons] at hlast
    exact ih (List.isChain_cons_cons.mp hchain).2 hlast

theorem evaluate_ok {values : List Json} {now : Json} {store store' : Option EquivocationStore}
    {transcript : NegotiationTranscript}
    (h : evaluateNegotiationTranscript host values now bindings store = (store', .ok transcript)) :
    ∃ time documents, evaluationTime now = .ok time ∧
      verifyDocuments host bindings store values = (store', .ok documents) ∧
      evaluateDocuments time documents = .ok transcript := by
  unfold evaluateNegotiationTranscript at h
  split at h
  · cases h
  · rename_i time htime
    split at h
    · cases h
    · cases hverified : verifyDocuments host bindings store values with
      | mk store₁ documents =>
        rw [hverified] at h
        cases documents with
        | error e => cases h
        | ok documents =>
          obtain ⟨rfl, hresult⟩ := Prod.mk.injEq _ _ _ _ ▸ h
          exact ⟨time, documents, htime, rfl, hresult⟩

theorem evaluateDocuments_accepted {time : Int} {transcript : NegotiationTranscript}
    (h : evaluateDocuments time documents = .ok transcript)
    (haccepted : transcript.state = .accepted) :
    ∃ first rest terms digest attachments, documents = first :: rest ∧
      first.document.body = .offer terms digest attachments ∧
      first.document.revision = 1 ∧ first.document.parentDigest = none ∧
      followDocuments first terms.intentDigest .opened digest first rest =
        .ok (.accepted, transcript.activeTermsDigest) ∧
      transcript.conversationId = first.document.conversationId ∧
      transcript.intentDigest = terms.intentDigest := by
  cases documents with
  | nil => cases h
  | cons first rest =>
    unfold evaluateDocuments at h
    dsimp only at h
    split at h
    · rename_i terms digest attachments hbody
      simp only [bind_ok, throwIf_ok, exists_unit, not_or, not_not,
        pure_ok] at h
      obtain ⟨⟨hrevision, hparent⟩, ⟨state, active⟩, hfollow, rfl⟩ := h
      have hstate : state = .accepted := by
        dsimp only at haccepted
        split at haccepted
        · cases haccepted
        · exact haccepted
      rw [hstate] at hfollow
      exact ⟨first, rest, terms, digest, attachments, rfl, hbody, hrevision, hparent, hfollow, rfl,
        rfl⟩
    · cases h

theorem accepted_transcript {values : List Json} {now : Json}
    {store store' : Option EquivocationStore} {transcript : NegotiationTranscript}
    (SignedBy : List (Fin 256) → List (Fin 256) → Prop)
    (hideal : ∀ signature message key, host.verify signature message key = true →
      SignedBy key message) (hroles : ∀ value ∈ values, RoleWritten value)
    (h : evaluateNegotiationTranscript host values now bindings store = (store', .ok transcript))
    (haccepted : transcript.state = .accepted) :
    ∃ root counters acceptance, values.map (verifySignedNegotiationDocument host) =
        (root :: (counters ++ [acceptance])).map some ∧
      Agreement bindings SignedBy transcript root counters acceptance := by
  obtain ⟨time, documents, -, hverified, hdocuments⟩ := evaluate_ok h
  have hbound := verifyDocuments_ok hverified
  obtain ⟨root, rest, terms, digest, attachments, rfl, hoffer, hrevision, hparent, hfollow,
    hconversation, hintent⟩ := evaluateDocuments_accepted hdocuments haccepted
  have hmember : ∀ d ∈ root :: rest, ∃ value ∈ values, BoundTo bindings value d := fun d hd =>
    BoundTo.of_mem hbound hd
  have htexts : ∀ d ∈ root :: rest, RoleIsText d := fun d hd => by
    obtain ⟨value, hvalue, hd⟩ := hmember d hd
    exact hd.roleIsText (hroles value hvalue)
  have hproposed : ∀ d ∈ root :: rest, ∀ t, d.document.body.terms? = some t →
      ∃ digest, d.document.body.termsDigest? = some digest ∧
        negotiationTermsDigest host t = .ok digest := fun d hd t ht => by
    obtain ⟨value, -, hd⟩ := hmember d hd
    exact proposal_digest (verifySigned_ok hd.verified).1 ht
  have hroot : Proposes root digest terms.intentDigest := by
    refine ⟨terms, ?_, ?_, rfl⟩
    · rw [hoffer]
      rfl
    · rw [hoffer]
      rfl
  obtain ⟨⟨counters, acceptance, proposal, rfl, hcounters, hlast, hproposal, hbody⟩, hchain⟩ :=
    followDocuments_accepted rfl hroot htexts hfollow
  refine ⟨root, counters, acceptance, ?_, ⟨⟨terms, digest, attachments, hoffer⟩,
    ⟨hrevision, hparent, hconversation.symm⟩, fun c hc => (hcounters c hc).1, hchain, hbody, ?_, ?_,
    ?_⟩⟩
  · exact BoundTo.values hbound
  · obtain ⟨t, ht, hdigest, -⟩ := hproposal
    have hmem : proposal ∈ root :: (counters ++ [acceptance]) := by
      have hin := List.mem_of_getLast? hlast
      rw [← List.cons_append]
      exact List.mem_append_left _ hin
    obtain ⟨digest', hdigest', hterms⟩ := hproposed proposal hmem t ht
    rw [hdigest] at hdigest'
    cases hdigest'
    exact ⟨proposal, t, hlast, ht, hterms, last_role hchain hlast⟩
  · intro p hp
    rw [hintent]
    rcases List.mem_cons.mp hp with rfl | hp
    · obtain ⟨t, ht, -, hsame⟩ := hroot
      exact ⟨t, ht, hsame⟩
    · obtain ⟨-, _, t, ht, -, hsame⟩ := hcounters p hp
      exact ⟨t, ht, hsame⟩
  · intro d hd
    obtain ⟨value, -, hd⟩ := hmember d hd
    obtain ⟨-, hdigest, hverify⟩ := verifySigned_ok hd.verified
    exact ⟨hdigest, hd.key, hideal _ _ _ hverify⟩

/-! ## A transcript that runs -/

/-- A hash that tells these texts apart, and signatures that are the message and the key. -/
def plainHost : Host where
  sha256 s :=
    let n := s.foldl (fun n c => (n * 257 + c.toNat) % 2 ^ 256) 7
    Vector.ofFn fun i : Fin 32 => Fin.ofNat 256 (n / 256 ^ i.val)
  verify signature message key := decide (signature = message ++ key)
  validateAndParseAddress := some
  messageHash := fun _ => some "0x1".toList
  nfkc := id

def statementOf (account key : Text) : WalletMailBindingStatementV1 :=
  ⟨account, "0x1".toList, zeros 64, key, 1, 100, "0x".toList ++ zeros 64, "0x".toList ++ zeros 64⟩

def certificateOf (account key : Text) : WalletMailBindingCertificateV1 :=
  ⟨statementOf account key,
    walletMailBindingStatementDigest plainHost.toHost (statementOf account key), "0x1".toList,
    ["0x1".toList]⟩

def certificateJson (account key : Text) : Json :=
  .object [("version", .number 1),
    ("statement", .object [("domain", .string walletMailBindingDomain), ("version", .number 1),
      ("account", .string account), ("chainId", .string "0x1".toList),
      ("mailboxPublicKey", .string (zeros 64)), ("authPublicKey", .string key),
      ("issuedAt", .number 1), ("expiresAt", .number 100),
      ("nonce", .string ("0x".toList ++ zeros 64)),
      ("revocationId", .string ("0x".toList ++ zeros 64))]),
    ("statementDigest", .string
      (walletMailBindingStatementDigest plainHost.toHost (statementOf account key))),
    ("messageHash", .string "0x1".toList), ("signature", .array [.string "1".toList])]

def bindingOf (account key : Text) : VerifiedWalletMailBinding where
  certificate := certificateOf account key
  certificateDigest := digestBytes plainHost.toHost (certificateOf account key).tree.render
  verifiedAt := 5
  revocationSnapshotDigest := sha256Prefix ++ zeros 64

def takerKey : Text := zeros 64
def makerKey : Text := '1' :: zeros 63

def plainBindings : NegotiationRoleBindings plainHost where
  taker := ⟨bindingOf "0xa".toList takerKey, some (certificateJson "0xa".toList takerKey),
    some (.number 5), some zeroDigest, [], true, by decide +kernel⟩
  maker := ⟨bindingOf "0xb".toList makerKey, some (certificateJson "0xb".toList makerKey),
    some (.number 5), some zeroDigest, [], true, by decide +kernel⟩

def plainTerms (minBuyAmount : Text) : NegotiationTermsV1 where
  chainId := "0x1".toList
  registryRevision := "1".toList
  intentDigest := sha256Prefix ++ zeros 64
  makerId := "maker".toList
  sellToken := "0x1".toList
  buyToken := "0x2".toList
  sellAmount := "5".toList
  minBuyAmount
  quoteExpiresAt := 50
  settlementDeadline := 60

def digestOf (result : Except String Text) : Text :=
  match result with
  | .ok digest => digest
  | .error _ => []

/-- The first document of a conversation, or what follows a document at a time. -/
def plainDocument (role : Spelled NegotiationRole) (parent : Option NegotiationDocumentV1)
    (createdAt : Int) (body : NegotiationBody) : NegotiationDocumentV1 where
  documentId := "0x".toList ++ zeros 64
  conversationId := "0x".toList ++ zeros 64
  revision := (parent.map (·.revision)).getD 0 + 1
  parentDigest := parent.map fun p => digestOf (negotiationDocumentDigest plainHost p)
  authorRole := role
  authorBindingDigest := (plainBindings.of role.value).certificateDigest
  createdAt
  expiresAt := createdAt + 10
  note := []
  body

def plainOffer (role : NegotiationRole) (minBuyAmount : Text) : NegotiationDocumentV1 :=
  plainDocument (.text role) none 10 (.offer (plainTerms minBuyAmount)
    (digestOf (negotiationTermsDigest plainHost (plainTerms minBuyAmount))) [])

def plainAcceptance (role : Spelled NegotiationRole) (createdAt : Int)
    (offer : NegotiationDocumentV1) : NegotiationDocumentV1 :=
  plainDocument role (some offer) createdAt (.accept (offer.body.termsDigest?.getD []))

def signedJson (d : NegotiationDocumentV1) : Json :=
  let key := (plainBindings.of d.authorRole.value).certificate.statement.authPublicKey
  let digest := digestOf (negotiationDocumentDigest plainHost d)
  .object [("version", .number 1), ("document", d.json), ("documentDigest", .string digest),
    ("authPublicKey", .string key),
    ("signature", .string (bytesToHex (signatureMessage plainHost digest key ++ hexToBytes key)))]

def agreementOf (offerRole : NegotiationRole) (minBuyAmount : Text)
    (acceptRole : Spelled NegotiationRole) (createdAt : Int) : List Json :=
  let offer := plainOffer offerRole minBuyAmount
  [signedJson offer, signedJson (plainAcceptance acceptRole createdAt offer)]

def stateOf (result : Except String NegotiationTranscript) : Option TranscriptState :=
  result.toOption.map (·.state)

theorem ok_of_stateOf {result : Except String NegotiationTranscript}
    (h : stateOf result = some state) : ∃ transcript, result = .ok transcript ∧
      transcript.state = state := by
  unfold stateOf at h
  cases result with
  | error e => cases h
  | ok transcript =>
    cases h
    exact ⟨transcript, rfl, rfl⟩

theorem accepted_transcript_plain :
    ∃ transcript root counters acceptance,
      (evaluateNegotiationTranscript plainHost (agreementOf .taker "7".toList (.text .maker) 15)
        (.number 12) plainBindings none).2 = .ok transcript ∧
      Agreement plainBindings (fun key message => plainHost.verify (message ++ key) message key = true)
        transcript root counters acceptance := by
  have hstate : stateOf (evaluateNegotiationTranscript plainHost
      (agreementOf .taker "7".toList (.text .maker) 15) (.number 12) plainBindings none).2 =
      some .accepted := by decide +kernel
  obtain ⟨transcript, hresult, haccepted⟩ := ok_of_stateOf hstate
  have hroles : ∀ value ∈ agreementOf .taker "7".toList (.text .maker) 15, RoleWritten value := by
    intro value hvalue
    rcases List.mem_cons.mp hvalue with rfl | hvalue
    · exact ⟨"taker".toList, rfl⟩
    · rw [List.mem_singleton.mp hvalue]
      exact ⟨"maker".toList, rfl⟩
  obtain ⟨root, counters, acceptance, -, hagreement⟩ := accepted_transcript
    (fun key message => plainHost.verify (message ++ key) message key = true)
    (fun _ _ _ _ => decide_eq_true rfl) hroles (Prod.ext rfl hresult) haccepted
  exact ⟨transcript, root, counters, acceptance, hresult, hagreement⟩

/-- An acceptance at the very expiry of the offer is accepted, and so is one by the role of the offer
when it writes its role as a list. -/
theorem accepted_outside_claim :
    stateOf (evaluateNegotiationTranscript plainHost
      (agreementOf .taker "7".toList (.text .maker) 20) (.number 12) plainBindings none).2 =
        some .accepted ∧
    (plainOffer .taker "7".toList).expiresAt = 20 ∧
    stateOf (evaluateNegotiationTranscript plainHost
      (agreementOf .taker "7".toList (.list (.text .taker)) 15) (.number 12) plainBindings none).2 =
        some .accepted ∧
    (agreementOf .taker "7".toList (.list (.text .taker)) 15).map (fun value =>
      (verifySignedNegotiationDocument plainHost value).map (·.document.authorRole.value)) =
        [some .taker, some .taker] := by
  decide +kernel

end App20.Negotiation
