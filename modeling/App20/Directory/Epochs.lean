import App20.Intents.Texts
import App20.Lib.Sorting

/-!
# Maker directories

The signed epochs of the directory of makers: their canonical text, and what a client verifies of one.
How an endpoint is read as a URL, in which order `localeCompare` puts two texts and how a signature is
verified are left open.

* `verifyMakerDirectoryEpoch_ok`: what is known of an epoch that verifies.
-/

namespace App20.Directory

open App20.Lib App20.Domain
open App20.Reservation (requireText requireFelt requireDigest requireTimestamp)
open App20.Intents (requirePool requireSafeNonNegative field Hash digestText)

/-! ## Data -/

/-- A public key; `d` says whether there is a private part. -/
structure P256PublicJwk where
  kty : Text
  crv : Text
  x : Text
  y : Text
  d : Bool

structure MakerKeyWindow where
  keyId : Text
  publicKey : P256PublicJwk
  validFrom : Int
  validUntil : Int
  revokedAt : Option Int

abbrev DirectoryAuthorityKey := MakerKeyWindow

structure MakerDirectoryEntry where
  makerId : Text
  settlementAccount : Text
  settlementKeyCommitment : Text
  transportEndpoint : Text
  quoteKeys : List MakerKeyWindow
  transportKeys : List MakerKeyWindow

structure MakerDirectoryEpochBody where
  version : Int
  domain : Text
  chainId : Text
  epoch : Int
  previousEpochDigest : Option Text
  registryRevision : Text
  issuedAt : Int
  validFrom : Int
  validUntil : Int
  authorityKeyId : Text
  makers : List MakerDirectoryEntry

structure SignedMakerDirectoryEpoch extends MakerDirectoryEpochBody where
  signature : Text

inductive DirectoryStatus where
  | future | active | historical
  deriving DecidableEq

structure VerifiedMakerDirectoryEpoch where
  body : MakerDirectoryEpochBody
  digest : Text
  status : DirectoryStatus
  authorityKeyId : Text

/-- What is read of a URL, and how it is written. -/
structure Url where
  protocol : Text
  username : Text
  password : Text
  hostname : Text
  search : Text
  hash : Text
  href : Text

/-- The parts of the platform that the checks call. -/
structure Platform where
  newUrl : Text → Option Url
  localeCompare : Text → Text → Ordering
  sha256 : Hash
  /-- The verification of a signature of a text by a key, which may throw. -/
  verify : Text → Text → P256PublicJwk → Except String Bool

def makerDirectoryDomain : Text := "app20/maker-directory-epoch/v1".toList
def maxDirectoryLifetimeSeconds : Int := 366 * 24 * 60 * 60
def maxDirectoryPublicationLeadSeconds : Int := 24 * 60 * 60

/-! ## Keys -/

def isBase64Url (c : Char) : Bool := c.isAlphanum || c = '_' || c = '-'

def isP256Coordinate (value : Text) : Bool := value.length = 43 && value.all isBase64Url

def requireP256PublicKey (value : P256PublicJwk) (label : String) :
    Except String P256PublicJwk := do
  throwIf (value.kty ≠ "EC".toList ∨ value.crv ≠ "P-256".toList ∨ isP256Coordinate value.x = false ∨
      isP256Coordinate value.y = false ∨ value.d = true)
    (label ++ " must be a public P-256 JWK without private material.")
  return ⟨"EC".toList, "P-256".toList, value.x, value.y, false⟩

def canonicalKeyWindow (key : MakerKeyWindow) (label : String) : Except String MakerKeyWindow := do
  let validFrom ← requireTimestamp (.number key.validFrom) (label ++ ".validFrom")
  let validUntil ← requireTimestamp (.number key.validUntil) (label ++ ".validUntil")
  throwIf (validUntil ≤ validFrom) (label ++ " validity window is empty.")
  match key.revokedAt with
  | none => pure ()
  | some revokedAt => do
    let _ ← requireTimestamp (.number revokedAt) (label ++ ".revokedAt")
    throwIf (revokedAt ≤ validFrom ∨ validUntil < revokedAt)
      (label ++ ".revokedAt must fall inside its validity window.")
  let keyId ← requireText key.keyId (label ++ ".keyId")
  let publicKey ← requireP256PublicKey key.publicKey (label ++ ".publicKey")
  return ⟨keyId, publicKey, validFrom, validUntil, key.revokedAt⟩

/-- The keys from the one at `index` on. -/
def canonicalKeysFrom (label : String) (index : Nat) :
    List MakerKeyWindow → Except String (List MakerKeyWindow)
  | [] => .ok []
  | key :: keys => do
    let first ← canonicalKeyWindow key (label ++ "[" ++ toString index ++ "]")
    let rest ← canonicalKeysFrom label (index + 1) keys
    return first :: rest

def canonicalKeyWindows (p : Platform) (keys : List MakerKeyWindow) (label : String) :
    Except String (List MakerKeyWindow) := do
  throwIf (keys = []) (label ++ " requires at least one key.")
  let unordered ← canonicalKeysFrom label 0 keys
  let canonical := sort (fun left right => p.localeCompare left.keyId right.keyId) unordered
  throwIf (¬ (canonical.map (·.keyId)).Nodup) (label ++ " key IDs must be unique.")
  return canonical

def canonicalAuthorityKey (key : DirectoryAuthorityKey) : Except String DirectoryAuthorityKey :=
  canonicalKeyWindow key ("authorityKeys." ++ String.ofList key.keyId)

/-! ## Entries -/

def withoutSlash (text : Text) : Text := if text.getLast? = some '/' then text.dropLast else text

def requireTransportEndpoint (p : Platform) (value chainId : Text) : Except String Text :=
  match p.newUrl value with
  | none => .error "transportEndpoint must be an absolute URL."
  | some endpoint => do
    throwIf (endpoint.username ≠ [] ∨ endpoint.password ≠ [] ∨ endpoint.search ≠ [] ∨
        endpoint.hash ≠ [])
      "transportEndpoint must not contain credentials, query, or fragment data."
    throwIf (endpoint.protocol ≠ "https:".toList ∧ ¬ (chainId = "starknet:APP20_LOCALNET".toList ∧
        endpoint.protocol = "http:".toList ∧ (endpoint.hostname = "127.0.0.1".toList ∨
          endpoint.hostname = "localhost".toList)))
      "transportEndpoint requires HTTPS outside localnet."
    return withoutSlash endpoint.href

def canonicalMakerEntry (p : Platform) (entry : MakerDirectoryEntry) (chainId : Text) :
    Except String MakerDirectoryEntry := do
  let makerId ← requireText entry.makerId "makerId"
  let quoteKeys ← canonicalKeyWindows p entry.quoteKeys (String.ofList entry.makerId ++ ".quoteKeys")
  let settlementAccount ← requireFelt entry.settlementAccount "settlementAccount"
  let settlementKeyCommitment ← requireDigest entry.settlementKeyCommitment "settlementKeyCommitment"
  let transportEndpoint ← requireTransportEndpoint p entry.transportEndpoint chainId
  let transportKeys ←
    canonicalKeyWindows p entry.transportKeys (String.ofList entry.makerId ++ ".transportKeys")
  return ⟨makerId, settlementAccount, settlementKeyCommitment, transportEndpoint, quoteKeys,
    transportKeys⟩

/-! ## The canonical epoch -/

def requirePrevious : Option Text → String → Except String (Option Text)
  | none, _ => .ok none
  | some digest, label => do
    let digest ← requireDigest digest label
    return some digest

/-- The body that `canonicalMakerDirectoryEpoch` writes. -/
def canonicalEpochBody (p : Platform) (epoch : MakerDirectoryEpochBody) :
    Except String MakerDirectoryEpochBody := do
  throwIf (epoch.version ≠ 1 ∨ epoch.domain ≠ makerDirectoryDomain)
    "Only maker directory epoch v1 is supported."
  let chainId ← requirePool epoch.chainId
  let epochNumber ← requireSafeNonNegative epoch.epoch "epoch"
  let issuedAt ← requireTimestamp (.number epoch.issuedAt) "issuedAt"
  let validFrom ← requireTimestamp (.number epoch.validFrom) "validFrom"
  let validUntil ← requireTimestamp (.number epoch.validUntil) "validUntil"
  throwIf (validFrom < issuedAt ∨ maxDirectoryPublicationLeadSeconds < validFrom - issuedAt)
    "Directory issuedAt must be at most 24 hours before validFrom."
  throwIf (validUntil ≤ validFrom ∨ maxDirectoryLifetimeSeconds < validUntil - validFrom)
    "Directory validity must be positive and at most 366 days."
  throwIf (epochNumber = 0 ∧ epoch.previousEpochDigest ≠ none)
    "Directory epoch zero must not name a predecessor."
  throwIf (0 < epochNumber ∧ epoch.previousEpochDigest = none)
    "Non-zero directory epochs require a predecessor digest."
  let unordered ← epoch.makers.mapM fun maker => canonicalMakerEntry p maker chainId
  let makers := sort (fun left right => p.localeCompare left.makerId right.makerId) unordered
  throwIf (makers = []) "Directory epoch requires at least one maker."
  throwIf (¬ (makers.map (·.makerId)).Nodup) "Directory maker IDs must be unique."
  let authorityKeyId ← requireText epoch.authorityKeyId "authorityKeyId"
  let previousEpochDigest ← requirePrevious epoch.previousEpochDigest "previousEpochDigest"
  let registryRevision ← requireText epoch.registryRevision "registryRevision"
  return ⟨epoch.version, epoch.domain, chainId, epochNumber, previousEpochDigest, registryRevision,
    issuedAt, validFrom, validUntil, authorityKeyId, makers⟩

/-! ## The canonical text -/

def P256PublicJwk.tree (key : P256PublicJwk) : Tree :=
  .object [field "kty" (.text key.kty), field "crv" (.text key.crv), field "x" (.text key.x),
    field "y" (.text key.y)]

def MakerKeyWindow.tree (key : MakerKeyWindow) : Tree :=
  .object ([field "keyId" (.text key.keyId), field "publicKey" key.publicKey.tree,
    field "validFrom" (.number key.validFrom), field "validUntil" (.number key.validUntil)] ++
      key.revokedAt.toList.map fun revokedAt => field "revokedAt" (.number revokedAt))

def MakerDirectoryEntry.tree (entry : MakerDirectoryEntry) : Tree :=
  .object [field "makerId" (.text entry.makerId),
    field "quoteKeys" (.array (entry.quoteKeys.map MakerKeyWindow.tree)),
    field "settlementAccount" (.text entry.settlementAccount),
    field "settlementKeyCommitment" (.text entry.settlementKeyCommitment),
    field "transportEndpoint" (.text entry.transportEndpoint),
    field "transportKeys" (.array (entry.transportKeys.map MakerKeyWindow.tree))]

def MakerDirectoryEpochBody.tree (body : MakerDirectoryEpochBody) : Tree :=
  .object [field "authorityKeyId" (.text body.authorityKeyId), field "chainId" (.text body.chainId),
    field "domain" (.text body.domain), field "epoch" (.number body.epoch),
    field "issuedAt" (.number body.issuedAt),
    field "makers" (.array (body.makers.map MakerDirectoryEntry.tree)),
    field "previousEpochDigest" (match body.previousEpochDigest with
      | none => .null
      | some digest => .text digest),
    field "registryRevision" (.text body.registryRevision),
    field "validFrom" (.number body.validFrom), field "validUntil" (.number body.validUntil),
    field "version" (.number body.version)]

def canonicalMakerDirectoryEpoch (p : Platform) (epoch : MakerDirectoryEpochBody) :
    Except String Text := do
  let body ← canonicalEpochBody p epoch
  return body.tree.render

def digestMakerDirectoryEpoch (p : Platform) (epoch : MakerDirectoryEpochBody) :
    Except String Text := do
  let canonical ← canonicalMakerDirectoryEpoch p epoch
  return digestText p.sha256 canonical

/-! ## Verification -/

/-- `/^0x[0-9a-fA-F]{128}$/` -/
def isSignature (s : Text) : Bool :=
  match s with
  | '0' :: 'x' :: ds => decide (ds.length = 128) && ds.all isHexDigit
  | _ => false

def requireSignature (value : Text) : Except String Text := do
  let normalized := toLowerCase (trim value)
  throwIf (isSignature normalized = false)
    "directory signature must be a 64-byte P-256 signature."
  return normalized

structure DirectoryVerificationOptions where
  now : Int
  expectedChainId : Text
  expectedEpoch : Option Int
  expectedPreviousEpochDigest : Option (Option Text)
  authorityKeys : List DirectoryAuthorityKey

def checkPrevious (epoch : MakerDirectoryEpochBody) : Option (Option Text) → Except String Unit
  | none => .ok ()
  | some previous => do
    let expected ← requirePrevious previous "expectedPreviousEpochDigest"
    let actual ← requirePrevious epoch.previousEpochDigest "previousEpochDigest"
    throwIf (expected ≠ actual) "Directory predecessor digest does not match."

def MakerKeyWindow.ValidAt (key : MakerKeyWindow) (time : Int) : Prop :=
  key.validFrom ≤ time ∧ time < key.validUntil ∧ ∀ revokedAt ∈ key.revokedAt, time < revokedAt

instance (key : MakerKeyWindow) (time : Int) : Decidable (key.ValidAt time) :=
  inferInstanceAs (Decidable (_ ∧ _))

def directoryStatus (epoch : MakerDirectoryEpochBody) (now : Int) : DirectoryStatus :=
  if now < epoch.validFrom then .future
  else if now < epoch.validUntil then .active
  else .historical

def verifyMakerDirectoryEpoch (p : Platform) (epoch : SignedMakerDirectoryEpoch)
    (options : DirectoryVerificationOptions) : Except String VerifiedMakerDirectoryEpoch := do
  let now ← requireTimestamp (.number options.now) "now"
  let body ← canonicalEpochBody p epoch.toMakerDirectoryEpochBody
  let canonical := body.tree.render
  throwIf (epoch.chainId ≠ options.expectedChainId)
    "Directory chain does not match the active chain."
  throwIf (∃ expected ∈ options.expectedEpoch, epoch.epoch ≠ expected)
    "Directory epoch is not the expected epoch."
  checkPrevious epoch.toMakerDirectoryEpochBody options.expectedPreviousEpochDigest
  let keys ← options.authorityKeys.mapM canonicalAuthorityKey
  match keys.filter fun key => key.keyId = epoch.authorityKeyId with
  | [authority] => do
    throwIf (¬ authority.ValidAt epoch.issuedAt)
      "Directory was not signed during the authority key's valid history."
    let signature ← requireSignature epoch.signature
    let genuine ← p.verify canonical signature authority.publicKey
    throwIf (genuine = false) "Directory signature verification failed."
    return ⟨body, digestText p.sha256 canonical, directoryStatus epoch.toMakerDirectoryEpochBody now,
      authority.keyId⟩
  | _ => .error "Directory authority key is unknown or ambiguous."

/-! ## What is verified -/

variable {p : Platform} {epoch : SignedMakerDirectoryEpoch} {options : DirectoryVerificationOptions}

theorem canonicalEpochBody_ok {epoch body : MakerDirectoryEpochBody}
    (h : canonicalEpochBody p epoch = .ok body) :
    body.epoch = epoch.epoch ∧ 0 ≤ epoch.epoch ∧ body.chainId = epoch.chainId ∧
      body.issuedAt = epoch.issuedAt ∧ body.validFrom = epoch.validFrom ∧
      body.validUntil = epoch.validUntil ∧
      requirePrevious epoch.previousEpochDigest "previousEpochDigest" =
        .ok body.previousEpochDigest ∧
      (body.previousEpochDigest = none ↔ epoch.epoch = 0) := by
  have htime {n m : Int} {label : String} (h : requireTimestamp (.number n) label = .ok m) :
      m = n := (Reservation.requireTimestamp_ok_iff.mp h).2.2
  simp only [canonicalEpochBody, bind_ok, throwIf_ok, pure_ok] at h
  obtain ⟨_, -, chainId, hchain, n, hn, issuedAt, hissued, validFrom, hfrom, validUntil, huntil, _, -,
    _, -, _, hzero, _, hpositive, _, -, _, -, _, -, _, -, previous, hprevious, _, -, rfl⟩ := h
  simp only [requireSafeNonNegative, bind_ok, throwIf_ok, pure_ok] at hn
  obtain ⟨_, hn, rfl⟩ := hn
  simp only [requirePool, bind_ok, throwIf_ok, pure_ok] at hchain
  obtain ⟨_, -, rfl⟩ := hchain
  refine ⟨rfl, by omega, rfl, htime hissued, htime hfrom, htime huntil, hprevious, ?_⟩
  dsimp only
  cases hgiven : epoch.previousEpochDigest with
  | none =>
    rw [hgiven] at hprevious hpositive
    cases hprevious
    exact iff_of_true rfl (by simp at hpositive; omega)
  | some given =>
    rw [hgiven] at hprevious hzero
    simp only [requirePrevious, bind_ok, pure_ok] at hprevious
    obtain ⟨d, -, rfl⟩ := hprevious
    exact iff_of_false (by simp) (by simpa using hzero)

/-- An epoch that is valid at a time, and signed by a key of the root that signs at the time when it
was issued. -/
structure Genuine (p : Platform) (epoch : SignedMakerDirectoryEpoch)
    (authorityKeys : List DirectoryAuthorityKey) (body : MakerDirectoryEpochBody)
    (digest : Text) : Prop where
  canonical : canonicalEpochBody p epoch.toMakerDirectoryEpochBody = .ok body
  hashed : digest = digestText p.sha256 body.tree.render
  signed : ∃ given ∈ authorityKeys, ∃ key signature, canonicalAuthorityKey given = .ok key ∧
    key.keyId = epoch.authorityKeyId ∧ key.ValidAt body.issuedAt ∧
    requireSignature epoch.signature = .ok signature ∧
    p.verify body.tree.render signature key.publicKey = .ok true

theorem directoryStatus_active {epoch : MakerDirectoryEpochBody} {now : Int}
    (h : directoryStatus epoch now = .active) : epoch.validFrom ≤ now ∧ now < epoch.validUntil := by
  unfold directoryStatus at h
  split at h
  · cases h
  · split at h
    · omega
    · cases h

theorem verifyMakerDirectoryEpoch_ok {verified : VerifiedMakerDirectoryEpoch}
    (h : verifyMakerDirectoryEpoch p epoch options = .ok verified) :
    Genuine p epoch options.authorityKeys verified.body verified.digest ∧
      epoch.chainId = options.expectedChainId ∧ (verified.status = .active →
        verified.body.validFrom ≤ options.now ∧ options.now < verified.body.validUntil) ∧
      ∀ previous, options.expectedPreviousEpochDigest = some previous →
        requirePrevious previous "expectedPreviousEpochDigest" =
          .ok verified.body.previousEpochDigest := by
  simp only [verifyMakerDirectoryEpoch, bind_ok, throwIf_ok, not_not] at h
  obtain ⟨now, hnow, body, hbody, _, hchain, _, -, _, hprevious, keys, hkeys, h⟩ := h
  obtain ⟨-, -, hnow⟩ := Reservation.requireTimestamp_ok_iff.mp hnow
  obtain ⟨-, -, -, hissued, hfrom, huntil, hactual, -⟩ := canonicalEpochBody_ok hbody
  split at h
  · rename_i key hfilter
    simp only [bind_ok, throwIf_ok, not_not, pure_ok, Bool.not_eq_false] at h
    obtain ⟨_, hvalid, signature, hsignature, genuine, hgenuine, _, htrue, rfl⟩ := h
    obtain ⟨hmem, hid⟩ := List.mem_filter.mp (hfilter ▸ List.mem_singleton_self key)
    obtain ⟨given, hgiven, hcanonical⟩ := mem_of_mapM hkeys key hmem
    refine ⟨⟨hbody, rfl, given, hgiven, key, signature, hcanonical, of_decide_eq_true hid,
      hissued ▸ hvalid, hsignature, htrue ▸ hgenuine⟩, hchain, fun hactive => ?_,
      fun previous heq => ?_⟩
    · rw [hfrom, huntil, ← hnow]
      exact directoryStatus_active hactive
    · rw [heq] at hprevious
      simp only [checkPrevious, bind_ok, throwIf_ok, not_not] at hprevious
      obtain ⟨expected, hexpected, actual, hactual', hsame⟩ := hprevious
      rw [hactual] at hactual'
      cases hactual'
      rw [hexpected, hsame]
  · cases h

end App20.Directory
