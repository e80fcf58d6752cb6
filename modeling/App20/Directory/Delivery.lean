import App20.Directory.Epochs
import App20.Lib.Run

/-!
# Delivery of maker directories

What a client accepts of the epochs that are delivered to it, against a trust root that it pins and
a high-water mark in a store that several clients share. A call loads the mark, verifies and then
writes the next mark by compare and set; between the two other clients may write.

* `accepted_directories`: the epochs that any clients accept, in any order of delivery, are one
  hash chain.
-/

namespace App20.Directory

open App20.Lib App20.Domain

/-! ## Acceptance -/

structure DirectoryCheckpoint where
  epoch : Int
  digest : Text
  deriving DecidableEq

/-- A trust root without what was accepted last. -/
structure PinnedRoot where
  expectedChainId : Text
  expectedRegistryRevision : Text
  authorityKeys : List DirectoryAuthorityKey
  minimumEpoch : Option Int
  trustedCheckpoint : Option DirectoryCheckpoint

structure DirectoryTrustRoot extends PinnedRoot where
  lastAccepted : Option DirectoryCheckpoint

structure AcceptedPublishedDirectory where
  verified : VerifiedMakerDirectoryEpoch
  nextRoot : DirectoryTrustRoot

/-- The mark in the store, with the checkpoint that its lineage begins at. -/
structure PersistedDirectoryHighWater extends DirectoryCheckpoint where
  checkpointEpoch : Option Int
  checkpointDigest : Option Text
  deriving DecidableEq

def acceptPublishedDirectoryEpoch (p : Platform) (signed : SignedMakerDirectoryEpoch)
    (root : DirectoryTrustRoot) (now : Int) : Except String AcceptedPublishedDirectory := do
  throwIf (signed.epoch < root.minimumEpoch.getD 0)
    "Published directory epoch is below the pinned minimum."
  throwIf (signed.registryRevision ≠ root.expectedRegistryRevision)
    "Published directory registry revision is not pinned."
  let highWater := root.lastAccepted.or root.trustedCheckpoint
  throwIf (∃ last ∈ root.lastAccepted, signed.epoch ≤ last.epoch)
    "Published directory rollback or duplicate epoch refused."
  throwIf (highWater = none ∧ signed.epoch ≠ 0)
    "Directory trust requires signed genesis or a manifest-pinned checkpoint."
  throwIf (∃ mark ∈ highWater, signed.epoch ≠ mark.epoch + 1)
    "Published directory must directly extend the pinned high-water epoch."
  let verified ← verifyMakerDirectoryEpoch p signed
    ⟨now, root.expectedChainId, some signed.epoch, some (highWater.map (·.digest)),
      root.authorityKeys⟩
  throwIf (verified.status ≠ .active) "Published directory epoch is not active."
  return ⟨verified, { root with lastAccepted := some ⟨signed.epoch, verified.digest⟩ }⟩

def checkLineage : Option PersistedDirectoryHighWater → Option DirectoryCheckpoint →
    Except String Unit
  | some current, some checkpoint => do
    throwIf (current.epoch < checkpoint.epoch)
      "Persisted directory high-water is below the manifest checkpoint."
    throwIf (current.epoch = checkpoint.epoch ∧
        toLowerCase current.digest ≠ toLowerCase checkpoint.digest)
      "Persisted directory high-water conflicts with the manifest checkpoint digest."
    throwIf (checkpoint.epoch < current.epoch ∧ (current.checkpointEpoch ≠ some checkpoint.epoch ∨
        current.checkpointDigest.map toLowerCase ≠ some (toLowerCase checkpoint.digest)))
      "Persisted directory high-water does not prove the manifest checkpoint lineage."
  | _, _ => .ok ()

/-- `acceptAndPersistPublishedDirectoryEpoch` with the mark that it loaded, up to its compare and
set: what is accepted, and the next mark. -/
def acceptLoaded (p : Platform) (signed : SignedMakerDirectoryEpoch) (root : PinnedRoot) (now : Int)
    (current : Option PersistedDirectoryHighWater) :
    Except String (AcceptedPublishedDirectory × PersistedDirectoryHighWater) := do
  checkLineage current root.trustedCheckpoint
  let accepted ← acceptPublishedDirectoryEpoch p signed
    { root with lastAccepted := current.map (·.toDirectoryCheckpoint) } now
  let mark : DirectoryCheckpoint := ⟨signed.epoch, accepted.verified.digest⟩
  return (accepted, { mark with
    checkpointEpoch := root.trustedCheckpoint.map (·.epoch)
    checkpointDigest := root.trustedCheckpoint.map fun checkpoint => toLowerCase checkpoint.digest })

/-! ## Clients that share a store -/

/-- A call of a client, from what it loaded to its compare and set. -/
structure Acceptance where
  signed : SignedMakerDirectoryEpoch
  root : PinnedRoot
  now : Int
  current : Option PersistedDirectoryHighWater
  directory : AcceptedPublishedDirectory
  next : PersistedDirectoryHighWater

namespace Acceptance

def epoch (a : Acceptance) : Int := a.directory.verified.body.epoch

def digest (a : Acceptance) : Text := a.directory.verified.digest

def previous (a : Acceptance) : Option Text := a.directory.verified.body.previousEpochDigest

end Acceptance

/-- The store, the calls that are under way, and what has been accepted, the newest first. -/
structure Clients where
  store : Option PersistedDirectoryHighWater
  pending : List Acceptance
  accepted : List Acceptance

namespace Clients

def empty : Clients := ⟨none, [], []⟩

/-- A call loads the mark and verifies what was delivered to it; a call under way compares and sets;
a client stops. -/
inductive Action where
  | load (signed : SignedMakerDirectoryEpoch) (root : PinnedRoot) (now : Int)
  | compareAndSet (call : Nat)
  | stop (call : Nat)

def step (p : Platform) (s : Clients) : Action → Clients
  | .load signed root now =>
    match acceptLoaded p signed root now s.store with
    | .ok (directory, next) =>
      { s with pending := ⟨signed, root, now, s.store, directory, next⟩ :: s.pending }
    | .error _ => s
  | .compareAndSet call =>
    match s.pending[call]? with
    | some a =>
      if s.store = a.current then ⟨some a.next, s.pending.eraseIdx call, a :: s.accepted⟩
      else { s with pending := s.pending.eraseIdx call }
    | none => s
  | .stop call => { s with pending := s.pending.eraseIdx call }

end Clients

/-! ## What one call accepts -/

variable {p : Platform} {a b : Acceptance}

/-- What the call made of what it loaded. -/
def Acceptance.Made (p : Platform) (a : Acceptance) : Prop :=
  acceptLoaded p a.signed a.root a.now a.current = .ok (a.directory, a.next)

def Acceptance.Follows (a : Acceptance) (mark : DirectoryCheckpoint) : Prop :=
  a.epoch = mark.epoch + 1 ∧ a.previous = some (toLowerCase (trim mark.digest))

/-- The first epoch: the signed genesis, or the one after the checkpoint that the client pins. -/
def Acceptance.Starts (a : Acceptance) : Prop :=
  match a.root.trustedCheckpoint with
  | none => a.epoch = 0 ∧ a.previous = none
  | some checkpoint => a.Follows checkpoint

/-- What every accepted epoch meets for its client: the pinned minimum, revision and chain, its
validity window, and a signature of a pinned key that signs at the time of issue. -/
structure Acceptance.Sound (p : Platform) (a : Acceptance) : Prop where
  minimum : a.root.minimumEpoch.getD 0 ≤ a.epoch
  revision : a.signed.registryRevision = a.root.expectedRegistryRevision
  chain : a.directory.verified.body.chainId = a.root.expectedChainId
  active : a.directory.verified.body.validFrom ≤ a.now ∧
    a.now < a.directory.verified.body.validUntil
  genuine : Genuine p a.signed a.root.authorityKeys a.directory.verified.body a.digest

theorem acceptPublishedDirectoryEpoch_ok {signed : SignedMakerDirectoryEpoch}
    {root : DirectoryTrustRoot} {now : Int} {accepted : AcceptedPublishedDirectory}
    (h : acceptPublishedDirectoryEpoch p signed root now = .ok accepted) :
    root.minimumEpoch.getD 0 ≤ signed.epoch ∧
      signed.registryRevision = root.expectedRegistryRevision ∧
      (root.lastAccepted.or root.trustedCheckpoint = none → signed.epoch = 0) ∧
      (∀ mark ∈ root.lastAccepted.or root.trustedCheckpoint, signed.epoch = mark.epoch + 1) ∧
      verifyMakerDirectoryEpoch p signed ⟨now, root.expectedChainId, some signed.epoch,
        some ((root.lastAccepted.or root.trustedCheckpoint).map (·.digest)), root.authorityKeys⟩ =
          .ok accepted.verified ∧ accepted.verified.status = .active := by
  simp only [acceptPublishedDirectoryEpoch, bind_ok, throwIf_ok, pure_ok,
    not_and, not_not, not_exists] at h
  obtain ⟨_, hminimum, _, hrevision, _, -, _, hgenesis, _, hmark, verified, hverified, _, hactive,
    rfl⟩ := h
  refine ⟨by omega, hrevision, hgenesis, fun mark hmem => ?_, hverified, hactive⟩
  exact hmark mark hmem

theorem Acceptance.Made.verified (h : a.Made p) : ∃ root : DirectoryTrustRoot,
    root.toPinnedRoot = a.root ∧ root.lastAccepted = a.current.map (·.toDirectoryCheckpoint) ∧
    acceptPublishedDirectoryEpoch p a.signed root a.now = .ok a.directory := by
  simp only [Made, acceptLoaded, bind_ok, pure_ok, Prod.mk.injEq] at h
  obtain ⟨_, -, directory, hdirectory, rfl, -⟩ := h
  exact ⟨_, rfl, rfl, hdirectory⟩

theorem Acceptance.Made.epoch (h : a.Made p) : a.epoch = a.signed.epoch := by
  obtain ⟨root, -, -, haccept⟩ := h.verified
  obtain ⟨-, -, -, -, hverified, -⟩ := acceptPublishedDirectoryEpoch_ok haccept
  exact (canonicalEpochBody_ok (verifyMakerDirectoryEpoch_ok hverified).1.canonical).1

theorem Acceptance.Made.sound (h : a.Made p) : a.Sound p := by
  have hepoch := h.epoch
  obtain ⟨root, hroot, -, haccept⟩ := h.verified
  obtain ⟨hminimum, hrevision, -, -, hverified, hstatus⟩ := acceptPublishedDirectoryEpoch_ok haccept
  obtain ⟨hgenuine, hchain, hactive, -⟩ := verifyMakerDirectoryEpoch_ok hverified
  have hchainId := (canonicalEpochBody_ok hgenuine.canonical).2.2.1
  have hminimum' : a.root.minimumEpoch.getD 0 ≤ a.epoch := by
    rw [hepoch, ← hroot]
    exact hminimum
  have hrevision' : a.signed.registryRevision = a.root.expectedRegistryRevision := by
    rw [← hroot]
    exact hrevision
  have hchain' : a.signed.chainId = a.root.expectedChainId := by
    rw [← hroot]
    exact hchain
  refine ⟨hminimum', hrevision', hchainId.trans hchain', hactive hstatus, ?_⟩
  rw [← hroot]
  exact hgenuine

theorem Acceptance.Made.next (h : a.Made p) : a.next.epoch = a.epoch ∧ a.next.digest = a.digest ∧
    a.next.checkpointEpoch = a.root.trustedCheckpoint.map (·.epoch) ∧ a.next.checkpointDigest =
      a.root.trustedCheckpoint.map fun checkpoint => toLowerCase checkpoint.digest := by
  have hepoch := h.epoch
  simp only [Made, acceptLoaded, bind_ok, pure_ok, Prod.mk.injEq] at h
  obtain ⟨_, -, directory, -, hdirectory, hnext⟩ := h
  rw [hnext, digest, hdirectory]
  exact ⟨hepoch.symm, rfl, rfl, rfl⟩

/-- The epoch follows on the mark that was loaded, or on the checkpoint where there was none. -/
theorem Acceptance.Made.follows (h : a.Made p) : match a.current with
    | none => a.Starts
    | some current => a.Follows current.toDirectoryCheckpoint := by
  have hepoch := h.epoch
  obtain ⟨root, hroot, hlast, haccept⟩ := h.verified
  obtain ⟨-, -, hgenesis, hmark, hverified, -⟩ := acceptPublishedDirectoryEpoch_ok haccept
  obtain ⟨hgenuine, -, -, hprevious⟩ := verifyMakerDirectoryEpoch_ok hverified
  have hnone := (canonicalEpochBody_ok hgenuine.canonical).2.2.2.2.2.2.2
  have hprevious := hprevious _ rfl
  have hfollows : ∀ mark, root.lastAccepted.or root.trustedCheckpoint = some mark →
      a.Follows mark := by
    intro mark hmem
    rw [hmem] at hprevious
    refine ⟨hepoch.trans (hmark mark hmem), ?_⟩
    have hsome := hprevious
    simp only [Option.map_some, requirePrevious, Reservation.requireDigest, bind_ok, throwIf_ok,
      pure_ok] at hsome
    obtain ⟨_, ⟨_, -, rfl⟩, hsome⟩ := hsome
    exact hsome
  rw [hlast] at hfollows hgenesis
  cases hcurrent : a.current with
  | some current => exact hfollows _ (by rw [hcurrent]; rfl)
  | none =>
    rw [hcurrent, Option.map_none, Option.none_or] at hfollows hgenesis
    have hcheckpoint : root.trustedCheckpoint = a.root.trustedCheckpoint := by rw [← hroot]
    rw [hcheckpoint] at hfollows hgenesis
    unfold Starts
    dsimp only
    split
    · rename_i hpinned
      have hzero := hgenesis hpinned
      exact ⟨hepoch.trans hzero, hnone.mpr hzero⟩
    · rename_i checkpoint hpinned
      exact hfollows checkpoint hpinned

/-! ## Checkpoints -/

theorem isSpace_toLower_eq (c : Char) : isSpace c.toLower = isSpace c := by
  rcases toLower_cases c with ⟨hlow, hhigh, hlower⟩ | ⟨-, hsame⟩
  · have hspace : isSpace c = false := by
      unfold isSpace
      apply decide_eq_false
      omega
    rw [hspace]
    exact isSpace_toLower c hspace
  · rw [hsame]

theorem dropWhile_toLower (s : Text) :
    (toLowerCase s).dropWhile isSpace = toLowerCase (s.dropWhile isSpace) := by
  unfold toLowerCase
  induction s with
  | nil => rfl
  | cons c s ih =>
    rw [List.map_cons, List.dropWhile_cons, List.dropWhile_cons, isSpace_toLower_eq]
    split
    · exact ih
    · rfl

/-- White space is cut off before or after the letters are lowered. -/
theorem trim_toLowerCase (s : Text) : trim (toLowerCase s) = toLowerCase (trim s) := by
  unfold trim List.rdropWhile
  rw [dropWhile_toLower]
  have hreverse : (toLowerCase (s.dropWhile isSpace)).reverse =
      toLowerCase (s.dropWhile isSpace).reverse := by
    unfold toLowerCase
    rw [List.map_reverse]
  rw [hreverse, dropWhile_toLower]
  unfold toLowerCase
  rw [List.map_reverse]

/-- Among the epochs, the newest first, is the one that follows on the checkpoint. -/
def Descends (accepted : List Acceptance) (checkpoint : DirectoryCheckpoint) : Prop :=
  ∃ b ∈ accepted, b.Follows checkpoint

theorem Acceptance.Made.lineage (h : a.Made p) {current : PersistedDirectoryHighWater}
    {checkpoint : DirectoryCheckpoint} (hcurrent : a.current = some current)
    (hcheckpoint : a.root.trustedCheckpoint = some checkpoint) :
    (current.epoch = checkpoint.epoch ∧
        toLowerCase current.digest = toLowerCase checkpoint.digest) ∨
      (current.checkpointEpoch = some checkpoint.epoch ∧
        current.checkpointDigest.map toLowerCase = some (toLowerCase checkpoint.digest)) := by
  simp only [Made, acceptLoaded, bind_ok, hcurrent, hcheckpoint, checkLineage,
    throwIf_ok, not_and, not_or, not_not] at h
  obtain ⟨_, ⟨_, hlow, _, hequal, hhigh⟩, -⟩ := h
  rcases Int.lt_or_eq_of_le (not_lt.mp hlow) with hlt | heq
  · exact Or.inr (hhigh hlt)
  · exact Or.inl ⟨heq.symm, hequal heq.symm⟩

/-- The digest of an epoch is in its normal form. -/
theorem Acceptance.Made.digest (h : a.Made p) : toLowerCase (trim a.digest) = a.digest := by
  rw [h.sound.genuine.hashed]
  obtain ⟨htrim, hlower, -⟩ := normal_of_isHex32 (Intents.digestText_isHex32 p.sha256 _)
  rw [htrim, hlower]

/-! ## The chain -/

/-- One epoch of the chain after another. -/
def Acceptance.Extends (a b : Acceptance) : Prop :=
  a.epoch = b.epoch + 1 ∧ a.previous = some b.digest

theorem Acceptance.Made.extends_of_follows (h : b.Made p)
    (hfollows : a.Follows b.next.toDirectoryCheckpoint) : a.Extends b := by
  obtain ⟨hepoch, hdigest, -, -⟩ := h.next
  refine ⟨?_, ?_⟩
  · rw [hfollows.1, hepoch]
  · rw [hfollows.2, hdigest, h.digest]

/-- What a run of clients keeps: every call was made of what it loaded, and the store has the mark
of the newest epoch, which each epoch had loaded from the one before it. -/
structure Chained (p : Platform) (s : Clients) : Prop where
  pending : ∀ a ∈ s.pending, a.Made p
  accepted : ∀ a ∈ s.accepted, a.Made p
  store : s.store = s.accepted.head?.map (·.next)
  chain : s.accepted.IsChain fun a b => a.current = some b.next
  first : ∀ a ∈ s.accepted.getLast?, a.current = none

theorem chained_empty : Chained p .empty :=
  ⟨fun a ha => (by cases ha), fun a ha => (by cases ha), rfl, List.isChain_nil,
    fun a ha => (by cases ha)⟩

theorem Chained.step {s : Clients} (h : Chained p s) (action : Clients.Action) :
    Chained p (s.step p action) := by
  have herase : ∀ call, ∀ a ∈ s.pending.eraseIdx call, a.Made p := fun call a ha =>
    h.pending a (List.mem_of_mem_eraseIdx ha)
  cases action with
  | load signed root now =>
    simp only [Clients.step]
    split
    · rename_i directory next hmade
      refine ⟨fun a ha => ?_, h.accepted, h.store, h.chain, h.first⟩
      rcases List.mem_cons.mp ha with rfl | ha
      · exact hmade
      · exact h.pending a ha
    · exact h
  | compareAndSet call =>
    simp only [Clients.step]
    split
    · rename_i a hcall
      split
      · rename_i hstore
        refine ⟨herase call, fun b hb => ?_, rfl, ?_, fun b hb => ?_⟩
        · rcases List.mem_cons.mp hb with rfl | hb
          · exact h.pending b (List.mem_of_getElem? hcall)
          · exact h.accepted b hb
        · rw [List.isChain_cons]
          refine ⟨fun b hb => ?_, h.chain⟩
          rw [← hstore, h.store, hb]
          rfl
        · cases haccepted : s.accepted with
          | nil =>
            rw [haccepted] at hb
            cases hb
            change a.current = none
            rw [← hstore, h.store, haccepted]
            rfl
          | cons c cs =>
            rw [haccepted, List.getLast?_cons_cons] at hb
            exact h.first b (haccepted ▸ hb)
      · exact ⟨herase call, h.accepted, h.store, h.chain, h.first⟩
    · exact h
  | stop call => exact ⟨herase call, h.accepted, h.store, h.chain, h.first⟩

theorem chained_run (actions : List Clients.Action) :
    Chained p (run (Clients.step p) .empty actions) :=
  run_invariant (fun _ action h => h.step action) actions chained_empty

theorem isChain_extends {accepted : List Acceptance} (hmade : ∀ a ∈ accepted, a.Made p)
    (hchain : accepted.IsChain fun a b => a.current = some b.next) :
    accepted.IsChain Acceptance.Extends := by
  induction accepted with
  | nil => exact List.isChain_nil
  | cons a older ih =>
    rw [List.isChain_cons] at hchain ⊢
    refine ⟨fun b hb => ?_, ih (fun c hc => hmade c (List.mem_cons_of_mem _ hc)) hchain.2⟩
    have hfollows := (hmade a List.mem_cons_self).follows
    rw [hchain.1 b hb] at hfollows
    exact (hmade b (List.mem_cons_of_mem _ (List.mem_of_mem_head? hb))).extends_of_follows hfollows

theorem Acceptance.Follows.congr {mark checkpoint : DirectoryCheckpoint} (h : a.Follows mark)
    (hepoch : mark.epoch = checkpoint.epoch)
    (hdigest : toLowerCase mark.digest = toLowerCase checkpoint.digest) : a.Follows checkpoint :=
  ⟨hepoch ▸ h.1, by rw [← trim_toLowerCase, ← hdigest, trim_toLowerCase]; exact h.2⟩

/-- An epoch that a client with a checkpoint accepts descends from the checkpoint. -/
theorem descends_checkpoint {a : Acceptance} {older : List Acceptance} :
    (∀ c ∈ a :: older, c.Made p) → ((a :: older).IsChain fun a b => a.current = some b.next) →
    (∀ c ∈ (a :: older).getLast?, c.current = none) → ∀ checkpoint,
      a.root.trustedCheckpoint = some checkpoint → Descends (a :: older) checkpoint := by
  induction older generalizing a with
  | nil =>
    intro hmade _ hfirst checkpoint hcheckpoint
    have hfollows := (hmade a List.mem_cons_self).follows
    rw [hfirst a rfl] at hfollows
    simp only [Acceptance.Starts, hcheckpoint] at hfollows
    exact ⟨a, List.mem_cons_self, hfollows⟩
  | cons b older ih =>
    intro hmade hchain hfirst checkpoint hcheckpoint
    have ha := hmade a List.mem_cons_self
    have hb := hmade b (List.mem_cons_of_mem _ List.mem_cons_self)
    obtain ⟨hcurrent, hrest⟩ := List.isChain_cons_cons.mp hchain
    rcases ha.lineage hcurrent hcheckpoint with ⟨hepoch, hdigest⟩ | ⟨hepoch, hdigest⟩
    · have hfollows := ha.follows
      rw [hcurrent] at hfollows
      exact ⟨a, List.mem_cons_self, hfollows.congr hepoch hdigest⟩
    · -- The mark carries the checkpoint of the client that wrote it.
      obtain ⟨-, -, hmarkEpoch, hmarkDigest⟩ := hb.next
      rw [hmarkEpoch] at hepoch
      rw [hmarkDigest] at hdigest
      obtain ⟨prior, hprior, hsame⟩ := Option.map_eq_some_iff.mp hepoch
      rw [hprior, Option.map_some, Option.map_some, Option.some.injEq, toLowerCase_toLowerCase]
        at hdigest
      obtain ⟨c, hc, hfollows⟩ := ih (fun c hc => hmade c (List.mem_cons_of_mem _ hc)) hrest
        (fun c hc => hfirst c (by rw [List.getLast?_cons_cons]; exact hc)) prior hprior
      exact ⟨c, List.mem_cons_of_mem _ hc, hfollows.congr hsame hdigest⟩

theorem epochs_nodup {accepted : List Acceptance} (h : accepted.IsChain Acceptance.Extends) :
    (accepted.map Acceptance.epoch).Nodup := by
  have hlower : (accepted.map Acceptance.epoch).IsChain (· > ·) := by
    rw [List.isChain_map]
    refine h.imp fun a b hextends => ?_
    have hepoch := hextends.1
    omega
  have hpairwise := List.isChain_iff_pairwise.mp hlower
  exact hpairwise.imp fun hgt => ne_of_gt hgt

/-- The mark in the store never goes back. -/
theorem Chained.store_step {s : Clients} (h : Chained p s) (action : Clients.Action)
    {mark : PersistedDirectoryHighWater} (hmark : s.store = some mark) :
    ∃ next, (s.step p action).store = some next ∧ mark.epoch ≤ next.epoch := by
  cases action with
  | load signed root now =>
    refine ⟨mark, ?_, le_refl _⟩
    simp only [Clients.step]
    split <;> exact hmark
  | compareAndSet call =>
    simp only [Clients.step]
    split
    · rename_i a hcall
      split
      · rename_i hstore
        have ha := h.pending a (List.mem_of_getElem? hcall)
        have hfollows := ha.follows
        rw [← hstore, hmark] at hfollows
        have hepoch := hfollows.1
        have hnext := ha.next.1
        exact ⟨a.next, rfl, by omega⟩
      · exact ⟨mark, hmark, le_refl _⟩
    · exact ⟨mark, hmark, le_refl _⟩
  | stop call => exact ⟨mark, hmark, le_refl _⟩

theorem Chained.store_run {s : Clients} (h : Chained p s) (actions : List Clients.Action)
    {mark : PersistedDirectoryHighWater} (hmark : s.store = some mark) :
    ∃ later, (run (Clients.step p) s actions).store = some later ∧ mark.epoch ≤ later.epoch := by
  induction actions generalizing s mark with
  | nil => exact ⟨mark, hmark, le_refl _⟩
  | cons action actions ih =>
    obtain ⟨next, hnext, hle⟩ := h.store_step action hmark
    obtain ⟨later, hlater, hle'⟩ := ih (h.step action) hnext
    exact ⟨later, hlater, hle.trans hle'⟩

/-- Over every interleaving of clients that share a store, with any signed epochs, trust roots and
times: the accepted epochs are one hash chain from genesis or a pinned checkpoint, none is accepted
twice, each descends from the checkpoint of its client and is sound for it, and the mark in the
store is of the newest one and never goes back. -/
theorem accepted_directories (p : Platform) (actions : List Clients.Action) :
    (run (Clients.step p) .empty actions).accepted.IsChain Acceptance.Extends ∧
      (∀ first ∈ (run (Clients.step p) .empty actions).accepted.getLast?, first.Starts) ∧
      (∀ a ∈ (run (Clients.step p) .empty actions).accepted,
        ∀ b ∈ (run (Clients.step p) .empty actions).accepted, a.epoch = b.epoch → a = b) ∧
      (∀ newer a older, (run (Clients.step p) .empty actions).accepted = newer ++ a :: older →
        ∀ checkpoint, a.root.trustedCheckpoint = some checkpoint →
          Descends (a :: older) checkpoint) ∧
      (∀ a ∈ (run (Clients.step p) .empty actions).accepted, a.Sound p) ∧
      (run (Clients.step p) .empty actions).store =
        (run (Clients.step p) .empty actions).accepted.head?.map (·.next) ∧
      ∀ before after mark, actions = before ++ after →
        (run (Clients.step p) .empty before).store = some mark → ∃ later,
          (run (Clients.step p) .empty actions).store = some later ∧ mark.epoch ≤ later.epoch := by
  have h := chained_run actions (p := p)
  have hchain := isChain_extends h.accepted h.chain
  refine ⟨hchain, fun first hfirst => ?_, fun a ha b hb heq => ?_,
    fun newer a older heq checkpoint hcheckpoint => ?_, fun a ha => (h.accepted a ha).sound, h.store,
    ?_⟩
  · have hfollows := (h.accepted first (List.mem_of_mem_getLast? hfirst)).follows
    rw [h.first first hfirst] at hfollows
    exact hfollows
  · exact List.inj_on_of_nodup_map (epochs_nodup hchain) ha hb heq
  · have hmade := h.accepted
    have hlinked := h.chain
    have hfirst := h.first
    rw [heq] at hmade hlinked hfirst
    refine descends_checkpoint (fun c hc => hmade c (List.mem_append_right _ hc))
      hlinked.right_of_append (fun c hc => hfirst c ?_) checkpoint hcheckpoint
    rw [List.getLast?_append, hc]
    rfl
  · rintro before after mark rfl hmark
    rw [run_append]
    exact (chained_run before).store_run after hmark

end App20.Directory
