import App20.Maker.Fills

/-!
# Signatures over a run

Every signed quote of versions 1 and 2 that a maker node returns, over any steps: the text that is
signed for a reservation is stored with it, and no change of the record removes it.

* `agreed_reached`: two signed quotes that are returned for one reservation are the same.
-/

namespace App20.Maker

open App20.Lib App20.Lib.Exec App20.Domain App20.Intents
open App20.Reservation (StoredReservation SignedQuote)
open Relation (ReflTransGen)

variable {config : Config} {powers : Powers} {s t : Books} {now : Int} {append : Append}

/-! ## What is returned -/

/-- A text that is returned signed, for the reservation that was the `number`-th to be made with an
id. -/
@[ext]
structure Signed where
  reservationId : Text
  number : Nat
  canonical : Text
  signature : Text

def SignedQuote.payload (q : SignedQuote) : Text × Text := (q.signedCanonical, q.signature)

def payload (r : StoredReservation) : Option (Text × Text) := r.normal.quote.map SignedQuote.payload

def ReservationOp.signing (config : Config) (now : Int) :
    ReservationOp → Option (Text × BooksM (Text × Text))
  | .signQuote quote canonical signer =>
    some (lowered quote.reservationId, Maker.signQuote config quote canonical signer now)
  | .signQuoteV2 quote canonical signer =>
    some (lowered quote.reservationId, Maker.signQuoteV2 config quote canonical signer now)
  | _ => none

def signatureReturned (config : Config) (w : Node) : Step → Option Signed
  | .act op now append =>
    match op.program config now, op.signing config now with
    | .ok _, some (id, m) =>
      match (transaction m append w.journal).1 with
      | .ok (signature, canonical) =>
        some ⟨id, w.journal.memory.made.count id, canonical, signature⟩
      | .error _ => none
    | _, _ => none
  | _ => none

def signaturesReturned (config : Config) : Node → List Step → List Signed
  | _, [] => []
  | w, x :: rest =>
    (signatureReturned config w x).toList ++ signaturesReturned config (step config w x) rest

/-- A canonical text begins and ends with a brace, so nothing can be trimmed of it. -/
structure TrimmedTexts (config : Config) : Prop where
  v1 : ∀ quote t, config.canonicalSolverQuote quote = .ok t → trim t = t
  v2 : ∀ quote t, config.canonicalSolverQuoteV2 quote = .ok t → trim t = t

/-! ## What is stored -/

variable {r : StoredReservation} {id canonical : Text} {signer : Except Text Text} {a : Text × Text}
  {w : Node} {x : Step} {y : Signed}

theorem Change.payload {c : StoredReservation} (h : Change config powers r c)
    (hr : r.quote ≠ none) : c.quote ≠ none ∧ Maker.payload c = Maker.payload r := by
  cases h with
  | respelled hreservation hnormal =>
    refine ⟨fun hc => hr ?_, by rw [Maker.payload, hnormal]; rfl⟩
    have hquotes := congrArg StoredReservation.quote hnormal
    simp only [StoredReservation.normal, hc, Option.map_none] at hquotes
    exact Option.map_eq_none_iff.mp hquotes.symm
  | signed hstate hfresh => exact absurd hfresh hr
  | moved | bound | quarantined | reconciled => exact ⟨hr, rfl⟩

theorem payload_of_changes {c : StoredReservation} (h : ReflTransGen (Change config powers) r c)
    (hr : r.quote ≠ none) : c.quote ≠ none ∧ payload c = payload r := by
  induction h with
  | refl => exact ⟨hr, rfl⟩
  | tail _ hchange ih =>
    obtain ⟨hnext, hsame⟩ := hchange.payload ih.1
    exact ⟨hnext, hsame.trans ih.2⟩

theorem quote_of_payload {p : Text × Text} (h : payload r = some p) : r.quote ≠ none := by
  intro hnone
  rw [payload, StoredReservation.normal, hnone] at h
  cases h

/-- The reservations for which these were returned have them, if they were not made anew. -/
def SignedFor (returned : List Signed) (b : Books) : Prop :=
  ∀ x ∈ returned, x.number ≤ b.made.count x.reservationId ∧
    (b.made.count x.reservationId = x.number → ∀ r, b.records.get? x.reservationId = some r →
      payload r = some (x.canonical, x.signature))

variable {returned : List Signed}

theorem SignedFor.follows (hs : SignedFor returned s) (h : Follows config powers s t) :
    SignedFor returned t := by
  intro x hx
  obtain ⟨hle, hpayload⟩ := hs x hx
  rw [h.made]
  refine ⟨hle, fun hcount c hc => ?_⟩
  obtain ⟨r, hr, hchanges⟩ := h.records _ c hc
  have hsigned := hpayload hcount r hr
  rw [(payload_of_changes hchanges (quote_of_payload hsigned)).2]
  exact hsigned

theorem SignedFor.new (hs : SignedFor returned s) (r : StoredReservation) :
    SignedFor returned
      { s with records := s.records.put r, made := s.made ++ [recordKey r] } := by
  intro x hx
  obtain ⟨hle, hpayload⟩ := hs x hx
  rw [List.count_append]
  by_cases hid : x.reservationId = recordKey r
  · rw [hid, List.count_singleton_self]
    rw [hid] at hle
    exact ⟨Nat.le_succ_of_le hle, fun hcount => by omega⟩
  · have hother : List.count x.reservationId [recordKey r] = 0 :=
      List.count_eq_zero.mpr fun hmem => hid (List.mem_singleton.mp hmem)
    rw [hother]
    refine ⟨hle, fun hcount c hc => hpayload hcount c ?_⟩
    rwa [Table.get?_put_of_ne hid] at hc

theorem SignedFor.add {x : Signed} (hs : SignedFor returned s) (hx : SignedFor [x] s) :
    SignedFor (returned ++ [x]) s := by
  intro y hy
  rcases List.mem_append.mp hy with hy | hy
  · exact hs y hy
  · exact hx y hy

/-! ## Signing -/

/-- What a program that signs makes of a draft: the reservation has what it returns. -/
def Signs (config : Config) (s : Books) (id : Text) (a : Text × Text) (t : Books) : Prop :=
  Follows config .none s t ∧ ∃ r, t.records.get? id = some r ∧ payload r = some (a.2, a.1)

theorem signCanonical_signs {digest : Text → Except String Text} {equivocation : String}
    (hs : IsDraft s) (hr : s.records.get? id = some r) (hstate : r.reservation.state = .reserved)
    (htrim : trim canonical = canonical)
    (h : Returns (signCanonical r canonical signer digest equivocation) s a t) :
    Signs config s id a t := by
  refine ⟨(signCanonical_revises hr hstate h).toFollows, ?_⟩
  obtain ⟨hmem, hkey⟩ := Table.get?_eq_some.mp hr
  unfold signCanonical at h
  split at h
  · rename_i quote hquote
    obtain ⟨hsame, h⟩ := returns_assert_bind.mp h
    obtain ⟨rfl, rfl⟩ := returns_pure.mp h
    refine ⟨r, hr, ?_⟩
    rw [payload, hs r hmem, hquote, ← hsame]
    rfl
  · obtain ⟨signature, hsignature, h⟩ := returns_lift_bind.mp h
    obtain ⟨quoteDigest, -, h⟩ := returns_lift_bind.mp h
    unfold putRecord at h
    rw [returns_modify_bind] at h
    obtain ⟨rfl, rfl⟩ := returns_pure.mp h
    obtain ⟨text, -, hsignature⟩ := bind_ok.mp hsignature
    have hstable : trim signature = signature := by
      rw [requireText_ok hsignature, trim_trim]
    refine ⟨{ r with quote := some ⟨canonical, signature, quoteDigest⟩ }, ?_, ?_⟩
    · rw [← hkey]
      exact Table.get?_put_self
    · show some (trim canonical, trim signature) = _
      rw [htrim, hstable]

theorem signable_found {reservationId : Text} {message : String} (hs : IsDraft s)
    (h : Returns (signable reservationId now message) s r t) :
    Revises config .none s t ∧ IsDraft t ∧ r.reservation.state = .reserved ∧
      t.records.get? (lowered reservationId) = some r := by
  unfold signable at h
  obtain ⟨_, p, hprune, h⟩ := returns_bind.mp h
  obtain ⟨id, hid, h⟩ := returns_lift_bind.mp h
  rw [returns_get_bind] at h
  obtain ⟨hr, rfl⟩ := returns_expect.mp h
  obtain ⟨hr, hstate⟩ := Option.filter_eq_some_iff.mp hr
  refine ⟨pruneDraft_revises hprune, pruneDraft_isDraft hprune hs, of_decide_eq_true hstate, ?_⟩
  rw [(requireHex32_ok_iff.mp hid).2] at hr
  exact hr

/-- Signing after a search for the reservation. -/
theorem Signs.after {p : Books} (hp : Revises config .none s p) (h : Signs config p id a t) :
    Signs config s id a t := ⟨hp.toFollows.trans h.1, h.2⟩

theorem signQuote_signs {quote : UnsignedSolverQuote} (htrim : TrimmedTexts config) (hs : IsDraft s)
    (h : Returns (signQuote config quote canonical signer now) s a t) :
    Signs config s (lowered quote.reservationId) a t := by
  unfold signQuote at h
  obtain ⟨r, p, hsignable, h⟩ := returns_bind.mp h
  obtain ⟨reconstructed, hcanonical, h⟩ := returns_lift_bind.mp h
  obtain ⟨hsame, h⟩ := returns_assert_bind.mp h
  obtain ⟨-, h⟩ := returns_assert_bind.mp h
  obtain ⟨hpruned, hdraft, hstate, hr⟩ := signable_found hs hsignable
  have htext : trim canonical = canonical := by
    rw [hsame]
    exact htrim.v1 quote reconstructed (ofProtocol_ok hcanonical)
  exact (signCanonical_signs hdraft hr hstate htext h).after hpruned

theorem signQuoteV2_signs {quote : UnsignedSolverQuoteV2} (htrim : TrimmedTexts config)
    (hs : IsDraft s) (h : Returns (signQuoteV2 config quote canonical signer now) s a t) :
    Signs config s (lowered quote.reservationId) a t := by
  unfold signQuoteV2 at h
  obtain ⟨r, p, hsignable, h⟩ := returns_bind.mp h
  obtain ⟨-, h⟩ := returns_assert_bind.mp h
  obtain ⟨reconstructed, hcanonical, h⟩ := returns_lift_bind.mp h
  obtain ⟨hsame, h⟩ := returns_assert_bind.mp h
  obtain ⟨-, h⟩ := returns_assert_bind.mp h
  obtain ⟨hpruned, hdraft, hstate, hr⟩ := signable_found hs hsignable
  have htext : trim canonical = canonical := by
    rw [hsame]
    exact htrim.v2 quote reconstructed (ofProtocol_ok hcanonical)
  exact (signCanonical_signs hdraft hr hstate htext h).after hpruned

theorem signing_signs {op : ReservationOp} {m : BooksM (Text × Text)} (htrim : TrimmedTexts config)
    (hop : op.signing config now = some (id, m)) (hs : IsDraft s) (h : Returns m s a t) :
    Signs config s id a t := by
  cases op with
  | signQuote quote canonical signer =>
    cases hop
    exact signQuote_signs htrim hs h
  | signQuoteV2 quote canonical signer =>
    cases hop
    exact signQuoteV2_signs htrim hs h
  | select | release | bind | read | quarantine | reconcile => cases hop

theorem program_signing {op : ReservationOp} {m : BooksM (Text × Text)} {m' : BooksM Unit}
    (hop : op.signing config now = some (id, m)) (hm : op.program config now = .ok m') :
    m' = discard m := by
  cases op with
  | signQuote | signQuoteV2 =>
    cases hop
    obtain ⟨_, -, hm⟩ := bind_ok.mp hm
    cases hm
    rfl
  | select | release | bind | read | quarantine | reconcile => cases hop

/-! ## Steps -/

theorem signatureReturned_signs (htrim : TrimmedTexts config)
    (h : signatureReturned config w x = some y) :
    y.number = w.journal.memory.made.count y.reservationId ∧ ∃ s t, IsDraft s ∧
      w.journal.memory.withRecords = .ok s ∧ Signs config s y.reservationId (y.signature, y.canonical) t ∧
      Follows config .none t (step config w x).journal.memory ∧
      Follows config .none t (step config w x).journal.durable := by
  cases x with
  | act op now append =>
    unfold signatureReturned at h
    dsimp only at h
    split at h
    · rename_i m' id m hm hop
      split at h
      · rename_i signature canonical hresult
        cases h
        refine ⟨rfl, ?_⟩
        obtain ⟨records, u, v, hrecords, hbody, hclone, hmemory, hdurable, -⟩ :=
          transaction_ok (Prod.ext hresult rfl)
        have hs : IsDraft { w.journal.memory with records } := cloneRecords_isDraft hrecords
        have hstep : (step config w (.act op now append)).journal =
            (transaction m append w.journal).2 := by
          show (w.act config op now append).journal = _
          unfold Node.act
          rw [hm, program_signing hop hm]
          exact congrArg Prod.snd (transaction_discard (Prod.ext hresult rfl))
        refine ⟨_, u, hs, ?_, signing_signs htrim hop hs hbody, ?_, ?_⟩
        · unfold Books.withRecords
          rw [hrecords]
          rfl
        · rw [hstep, hmemory]
          exact (withLocks_follows hclone).trans (Follows.of_records rfl rfl)
        · have hwritten : Follows config .none u (transaction m append w.journal).2.memory := by
            rw [hmemory]
            exact (withLocks_follows hclone).trans (Follows.of_records rfl rfl)
          rw [hstep]
          exact hwritten.trans (write_follows hdurable)
      · cases h
    · cases h
  | _ => cases h

theorem signatureReturned_agrees {z : Signed} (htrim : TrimmedTexts config)
    (hw : SignedFor returned w.journal.memory) (hz : z ∈ returned)
    (hy : signatureReturned config w x = some y) (hid : z.reservationId = y.reservationId)
    (hnumber : z.number = y.number) : z = y := by
  obtain ⟨hcount, s, t, -, hs, ⟨hsigns, r, hr, hpayload⟩, -⟩ := signatureReturned_signs htrim hy
  have hbase : Follows config .none w.journal.memory s := withRecords_follows hs
  obtain ⟨-, hsame⟩ := (hw.follows hbase).follows hsigns z hz
  have hmade : t.made.count z.reservationId = z.number := by
    rw [hsigns.made, hbase.made, hid, hnumber, hcount]
  have hstored := hsame hmade r (by rw [hid]; exact hr)
  have hboth := Prod.ext_iff.mp (Option.some.inj (hpayload.symm.trans hstored))
  exact Signed.ext hid hnumber hboth.1.symm hboth.2.symm

theorem signatureReturned_stored (htrim : TrimmedTexts config)
    (hy : signatureReturned config w x = some y) :
    (step config w x).journal.Holds (SignedFor [y]) := by
  obtain ⟨hcount, s, t, -, hs, ⟨hsigns, r, hr, hpayload⟩, hmemory, hdurable⟩ :=
    signatureReturned_signs htrim hy
  have hbase : Follows config .none w.journal.memory s := withRecords_follows hs
  have ht : SignedFor [y] t := by
    intro z hz
    rw [List.mem_singleton.mp hz]
    refine ⟨?_, fun _ c hc => ?_⟩
    · rw [hcount, hsigns.made, hbase.made]
    · cases hr.symm.trans hc
      exact hpayload
  exact ⟨ht.follows hmemory, ht.follows hdurable⟩

/-! ## Runs -/

structure Agreed (returned : List Signed) (w : Node) : Prop where
  stored : w.journal.Holds (SignedFor returned)
  same : ∀ y ∈ returned, ∀ z ∈ returned, y.reservationId = z.reservationId →
    y.number = z.number → y = z

theorem Agreed.step (h : Agreed returned w) (htrim : TrimmedTexts config) (x : Step) :
    Agreed (returned ++ (signatureReturned config w x).toList) (Maker.step config w x) := by
  have hstored : (Maker.step config w x).journal.Holds (SignedFor returned) :=
    step_holds x h.stored (fun _ _ hst hs => hs.follows hst) fun _ r _ hs => hs.new r
  cases hy : signatureReturned config w x with
  | none =>
    rw [Option.toList_none, List.append_nil]
    exact ⟨hstored, h.same⟩
  | some y =>
    obtain ⟨hmemory, hdurable⟩ := signatureReturned_stored htrim hy
    refine ⟨⟨hstored.memory.add hmemory, hstored.durable.add hdurable⟩, ?_⟩
    have hnew : ∀ z ∈ returned, z.reservationId = y.reservationId → z.number = y.number → z = y :=
      fun z hz => signatureReturned_agrees htrim h.stored.memory hz hy
    intro a ha b hb hid hnumber
    rw [Option.toList_some] at ha hb
    rcases List.mem_append.mp ha with ha | ha <;> rcases List.mem_append.mp hb with hb | hb
    · exact h.same a ha b hb hid hnumber
    · cases List.mem_singleton.mp hb
      exact hnew a ha hid hnumber
    · cases List.mem_singleton.mp ha
      exact (hnew b hb hid.symm hnumber.symm).symm
    · rw [List.mem_singleton.mp ha, List.mem_singleton.mp hb]

theorem Agreed.run (h : Agreed returned w) (htrim : TrimmedTexts config) (steps : List Step) :
    Agreed (returned ++ signaturesReturned config w steps)
      (Lib.run (Maker.step config) w steps) := by
  induction steps generalizing returned w with
  | nil =>
    rw [signaturesReturned, List.append_nil]
    exact h
  | cons x rest ih =>
    rw [run_cons, signaturesReturned, ← List.append_assoc]
    exact ih (h.step htrim x)

theorem agreed_reached (htrim : TrimmedTexts config) (steps : List Step) :
    Agreed (signaturesReturned config .empty steps) (reached config steps) := by
  have hnone : SignedFor [] Books.empty := fun x hx => by cases hx
  have hempty : Agreed [] Node.empty := ⟨⟨hnone, hnone⟩, fun x hx => by cases hx⟩
  exact hempty.run htrim steps

end App20.Maker
