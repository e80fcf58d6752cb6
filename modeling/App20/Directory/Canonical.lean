import App20.Directory.Epochs
import App20.Domain.CompareText
import App20.Reservation.Lifecycle

/-!
# The canonical form of an epoch

The text of an epoch is rebuilt by every client, with the collation of its device. For an epoch that
is accepted the text is compared over all orders of the makers and of their keys and over two
devices, and it is rebuilt of what is read from it.

* `canonicalText_iff`: the text is canonical exactly for epochs whose identifiers both collations
  order strictly and alike, and whose endpoints do not end in two slashes.
* `collation_matters`: it is not for two makers that two collations order differently.
-/

namespace App20.Directory

open App20.Lib App20.Domain
open App20.Reservation (requireText requireFelt requireDigest requireTimestamp requireText_ok_iff
  requireText_again requireDigest_again requireTimestamp_ok_iff maxSafeInteger)
open App20.Intents (requirePool requireSafeNonNegative field digestText)

/-! ## Keys -/

def P256PublicJwk.Allowed (key : P256PublicJwk) : Prop :=
  key.kty = "EC".toList ∧ key.crv = "P-256".toList ∧ isP256Coordinate key.x = true ∧
    isP256Coordinate key.y = true ∧ key.d = false

variable {label : String} {k : MakerKeyWindow} {keys r : List MakerKeyWindow} {value text : Text}
  {maker : MakerDirectoryEntry}

theorem requireP256PublicKey_ok_iff {key k : P256PublicJwk} :
    requireP256PublicKey key label = .ok k ↔ key.Allowed ∧ k = key := by
  obtain ⟨kty, crv, x, y, d⟩ := key
  simp only [requireP256PublicKey, bind_ok, throwIf_ok, pure_ok, P256PublicJwk.Allowed]
  constructor
  · rintro ⟨_, h, rfl⟩
    simp_all
  · rintro ⟨⟨rfl, rfl, hx, hy, rfl⟩, rfl⟩
    exact ⟨(), by simp [hx, hy], rfl⟩

def MakerKeyWindow.Allowed (key : MakerKeyWindow) : Prop :=
  (0 < key.validFrom ∧ key.validFrom ≤ maxSafeInteger) ∧
    (0 < key.validUntil ∧ key.validUntil ≤ maxSafeInteger) ∧ key.validFrom < key.validUntil ∧
    (∀ revokedAt ∈ key.revokedAt, (0 < revokedAt ∧ revokedAt ≤ maxSafeInteger) ∧
      key.validFrom < revokedAt ∧ revokedAt ≤ key.validUntil) ∧
    trim key.keyId ≠ [] ∧ key.publicKey.Allowed

theorem canonicalKeyWindow_ok_iff {key : MakerKeyWindow} :
    canonicalKeyWindow key label = .ok k ↔
      key.Allowed ∧ k = { key with keyId := trim key.keyId } := by
  obtain ⟨keyId, publicKey, validFrom, validUntil, revokedAt⟩ := key
  cases revokedAt with
  | none =>
    simp only [canonicalKeyWindow, bind_ok, throwIf_ok, pure_ok,
      requireText_ok_iff, requireTimestamp_ok_iff, requireP256PublicKey_ok_iff,
      MakerKeyWindow.Allowed]
    constructor
    · rintro ⟨_, ⟨h1, h2, rfl⟩, _, ⟨h3, h4, rfl⟩, _, h5, _, ⟨h6, rfl⟩, _, ⟨h7, rfl⟩, rfl⟩
      exact ⟨⟨⟨h1, h2⟩, ⟨h3, h4⟩, by omega, fun _ h => (nomatch h), h6, h7⟩, rfl⟩
    · rintro ⟨⟨⟨h1, h2⟩, ⟨h3, h4⟩, h5, -, h6, h7⟩, rfl⟩
      exact ⟨_, ⟨h1, h2, rfl⟩, _, ⟨h3, h4, rfl⟩, (), by omega, _, ⟨h6, rfl⟩, _, ⟨h7, rfl⟩, rfl⟩
  | some revokedAt =>
    simp only [canonicalKeyWindow, bind_ok, throwIf_ok, pure_ok,
      requireText_ok_iff, requireTimestamp_ok_iff, requireP256PublicKey_ok_iff,
      MakerKeyWindow.Allowed, Option.mem_def, Option.some.injEq, forall_eq']
    constructor
    · rintro ⟨_, ⟨h1, h2, rfl⟩, _, ⟨h3, h4, rfl⟩, _, h5, _, ⟨h6, h7, -⟩, _, h8, _, ⟨h9, rfl⟩, _,
        ⟨h10, rfl⟩, rfl⟩
      exact ⟨⟨⟨h1, h2⟩, ⟨h3, h4⟩, by omega, ⟨⟨h6, h7⟩, by omega, by omega⟩, h9, h10⟩, rfl⟩
    · rintro ⟨⟨⟨h1, h2⟩, ⟨h3, h4⟩, h5, ⟨⟨h6, h7⟩, h8, h9⟩, h10, h11⟩, rfl⟩
      exact ⟨_, ⟨h1, h2, rfl⟩, _, ⟨h3, h4, rfl⟩, (), by omega, _, ⟨h6, h7, rfl⟩, (), by omega, _,
        ⟨h10, rfl⟩, _, ⟨h11, rfl⟩, rfl⟩

theorem canonicalKeyWindow_again {key : MakerKeyWindow} (h : canonicalKeyWindow key label = .ok k)
    (l : String) : canonicalKeyWindow k l = .ok k := by
  obtain ⟨⟨hfrom, huntil, hlater, hrevoked, hid, hkey⟩, rfl⟩ := canonicalKeyWindow_ok_iff.mp h
  refine canonicalKeyWindow_ok_iff.mpr ⟨⟨hfrom, huntil, hlater, hrevoked, ?_, hkey⟩, ?_⟩
  · rwa [trim_trim]
  · simp only [trim_trim]

theorem canonicalKeysFrom_ok_iff :
    ∀ {index : Nat} {r : List MakerKeyWindow}, canonicalKeysFrom label index keys = .ok r ↔
      List.Forall₂ (fun key k => canonicalKeyWindow key "" = .ok k) keys r := by
  induction keys with
  | nil =>
    intro index r
    simp [canonicalKeysFrom, eq_comm]
  | cons key keys ih =>
    intro index r
    simp only [canonicalKeysFrom, bind_ok, pure_ok, ih, List.forall₂_cons_left_iff,
      canonicalKeyWindow_ok_iff]
    exact ⟨fun ⟨k, hk, ks, hks, heq⟩ => ⟨k, ks, hk, hks, heq⟩,
      fun ⟨k, ks, hk, hks, heq⟩ => ⟨k, hk, ks, hks, heq⟩⟩

variable {p : Platform} {c d : Text → Text → Ordering}

def Platform.collating (p : Platform) (collation : Text → Text → Ordering) : Platform :=
  { p with localeCompare := collation }

def keyIds (keys : List MakerKeyWindow) : List Text := keys.map fun key => trim key.keyId

/-- The order of the keys by their identifiers. -/
abbrev byKeyId (collation : Text → Text → Ordering) (left right : MakerKeyWindow) : Ordering :=
  collation left.keyId right.keyId

theorem keyIds_canonical (h : List.Forall₂ (fun key k => canonicalKeyWindow key "" = .ok k) keys r) :
    r.map (·.keyId) = keyIds keys := by
  induction h with
  | nil => rfl
  | cons hk _ ih =>
    rw [List.map_cons, ih, (canonicalKeyWindow_ok_iff.mp hk).2]
    rfl

theorem canonicalKeyWindows_ok_iff :
    canonicalKeyWindows (p.collating c) keys label = .ok r ↔ keys ≠ [] ∧ (keyIds keys).Nodup ∧
      ∃ unordered, List.Forall₂ (fun key k => canonicalKeyWindow key "" = .ok k) keys unordered ∧
        r = sort (byKeyId c) unordered := by
  simp only [canonicalKeyWindows, bind_ok, throwIf_ok, pure_ok, not_not, canonicalKeysFrom_ok_iff]
  constructor
  · rintro ⟨_, hne, unordered, hkeys, _, hnodup, rfl⟩
    rw [((perm_sort _ unordered).map _).nodup_iff, keyIds_canonical hkeys] at hnodup
    exact ⟨hne, hnodup, unordered, hkeys, rfl⟩
  · rintro ⟨hne, hnodup, unordered, hkeys, rfl⟩
    refine ⟨(), hne, unordered, hkeys, (), ?_, rfl⟩
    rwa [((perm_sort _ unordered).map _).nodup_iff, keyIds_canonical hkeys]

theorem keyIds_sorted (h : canonicalKeyWindows (p.collating c) keys label = .ok r) :
    r.map (·.keyId) = sort c (keyIds keys) := by
  obtain ⟨-, -, unordered, hkeys, rfl⟩ := canonicalKeyWindows_ok_iff.mp h
  rw [← keyIds_canonical hkeys]
  exact List.map_insertionSort _ _ _ _ fun _ _ _ _ => Iff.rfl

section

variable [Std.TransCmp c] [Std.TransCmp d]

theorem canonicalKeyWindows_alike {keys' : List MakerKeyWindow} (hperm : keys.Perm keys')
    (halike : OrdersAlike c d (keyIds keys))
    (h : canonicalKeyWindows (p.collating c) keys label = .ok r) (l : String) :
    canonicalKeyWindows (p.collating d) keys' l = .ok r := by
  obtain ⟨hne, hnodup, unordered, hkeys, rfl⟩ := canonicalKeyWindows_ok_iff.mp h
  obtain ⟨unordered', hkeys', hsame⟩ := List.perm_comp_forall₂ hperm.symm hkeys
  refine canonicalKeyWindows_ok_iff.mpr ⟨?_, ?_, unordered', hkeys', ?_⟩
  · rintro rfl
    exact hne hperm.eq_nil
  · exact (hperm.map _).nodup_iff.mp hnodup
  · rw [← keyIds_canonical hkeys] at hnodup halike
    exact sort_alike (f := MakerKeyWindow.keyId) hsame.symm hnodup halike

theorem canonicalKeyWindows_again (halike : OrdersAlike c d (keyIds keys))
    (h : canonicalKeyWindows (p.collating c) keys label = .ok r) (l : String) :
    canonicalKeyWindows (p.collating d) r l = .ok r := by
  obtain ⟨hne, hnodup, unordered, hkeys, rfl⟩ := canonicalKeyWindows_ok_iff.mp h
  have hagain : ∀ k ∈ sort (byKeyId c) unordered, canonicalKeyWindow k "" = .ok k := by
    intro k hk
    obtain ⟨_, -, hk⟩ := mem_of_mapM (mapM_ok_iff.mpr hkeys) k (mem_sort.mp hk)
    exact canonicalKeyWindow_again hk ""
  have hids := (keyIds_canonical (List.forall₂_same.mpr hagain)).symm
  rw [← keyIds_canonical hkeys] at hnodup halike
  refine canonicalKeyWindows_ok_iff.mpr ⟨?_, ?_, _, List.forall₂_same.mpr hagain, ?_⟩
  · intro hnil
    have hempty := (perm_sort (byKeyId c) unordered).symm.trans (List.Perm.of_eq hnil)
    rw [hempty.eq_nil, List.forall₂_nil_right_iff] at hkeys
    exact hne hkeys
  · rw [hids, ((perm_sort _ unordered).map _).nodup_iff]
    exact hnodup
  · exact sort_alike (f := MakerKeyWindow.keyId) (perm_sort _ unordered).symm hnodup halike

end

/-! ## Endpoints -/

def Url.Web (u : Url) : Prop :=
  (u.protocol = "https:".toList ∨ u.protocol = "http:".toList) ∧ u.search = [] ∧ u.hash = []

/-- A URL of the web is read again as it is written, also without the slash at its end: the path
is then one segment shorter, or it was empty and the slash is written again. -/
structure UrlLaws (newUrl : Text → Option Url) : Prop where
  href : ∀ {text u}, newUrl text = some u → u.Web → newUrl u.href = some u
  stem : ∀ {text u stem}, newUrl text = some u → u.Web → u.href = stem ++ ['/'] →
    ∃ href, newUrl stem = some { u with href := href } ∧
      (href = stem ∨ href = u.href ∧ stem.getLast? ≠ some '/')

/-- What is asked of the URL of an endpoint. -/
def Url.Allowed (u : Url) (chainId : Text) : Prop :=
  ¬ (u.username ≠ [] ∨ u.password ≠ [] ∨ u.search ≠ [] ∨ u.hash ≠ []) ∧
    ¬ (u.protocol ≠ "https:".toList ∧ ¬ (chainId = "starknet:APP20_LOCALNET".toList ∧
      u.protocol = "http:".toList ∧ (u.hostname = "127.0.0.1".toList ∨
        u.hostname = "localhost".toList)))

theorem Url.Allowed.web {u : Url} {chainId : Text} (h : u.Allowed chainId) : u.Web := by
  obtain ⟨hparts, hprotocol⟩ := h
  simp only [not_or, not_and_or, not_not] at hparts hprotocol
  exact ⟨hprotocol.imp_right fun h => h.2.1, hparts.2.2.1, hparts.2.2.2⟩

theorem requireTransportEndpoint_ok_iff {chainId t : Text} :
    requireTransportEndpoint p value chainId = .ok t ↔
      ∃ u, p.newUrl value = some u ∧ u.Allowed chainId ∧ t = withoutSlash u.href := by
  unfold requireTransportEndpoint
  cases p.newUrl value with
  | none => simp
  | some u =>
    simp only [bind_ok, throwIf_ok, pure_ok, Option.some.injEq, exists_eq_left',
      Url.Allowed, exists_and_left, exists_const, and_assoc]

/-- An endpoint is read as it was written, but for a URL that ends in two slashes. -/
theorem requireTransportEndpoint_again (hurl : UrlLaws p.newUrl) {chainId t : Text} {u : Url}
    (hu : p.newUrl value = some u) (h : requireTransportEndpoint p value chainId = .ok t) :
    requireTransportEndpoint p t chainId = .ok t ↔ ¬ ['/', '/'] <:+ u.href := by
  obtain ⟨u', hu', hallowed, rfl⟩ := requireTransportEndpoint_ok_iff.mp h
  obtain rfl : u = u' := Option.some.inj (hu.symm.trans hu')
  rw [requireTransportEndpoint_ok_iff]
  by_cases hslash : u.href.getLast? = some '/'
  · obtain ⟨stem, hstem⟩ := List.getLast?_eq_some_iff.mp hslash
    have hwithout : withoutSlash u.href = stem := by
      rw [withoutSlash, if_pos hslash, hstem, List.dropLast_concat]
    have htwo : ['/', '/'] <:+ u.href ↔ stem.getLast? = some '/' := by
      rw [hstem, show ['/', '/'] = ['/'] ++ ['/'] from rfl, List.suffix_append_inj_of_length_eq rfl,
        List.getLast?_eq_some_iff]
      exact ⟨fun ⟨⟨s, hs⟩, _⟩ => ⟨s, hs.symm⟩, fun ⟨s, hs⟩ => ⟨⟨s, hs.symm⟩, rfl⟩⟩
    obtain ⟨href, hread, hhref⟩ := hurl.stem hu hallowed.web hstem
    rw [hwithout, htwo]
    constructor
    · rintro ⟨_, hread', -, hsame⟩ hlast
      cases hread.symm.trans hread'
      rcases hhref with rfl | ⟨-, hlast'⟩
      · have hlength := congrArg List.length hsame
        obtain ⟨s, rfl⟩ := List.getLast?_eq_some_iff.mp hlast
        simp [withoutSlash] at hlength
      · exact hlast' hlast
    · intro hlast
      refine ⟨_, hread, hallowed, ?_⟩
      rcases hhref with rfl | ⟨rfl, -⟩
      · exact (if_neg hlast).symm
      · exact hwithout.symm
  · have hwithout : withoutSlash u.href = u.href := if_neg hslash
    rw [hwithout]
    refine iff_of_true ⟨u, hurl.href hu hallowed.web, hallowed, hwithout.symm⟩ ?_
    rintro ⟨s, hs⟩
    rw [← hs] at hslash
    exact hslash (by simp)

/-! ## Entries -/

theorem requireFelt_again {felt : Text} (h : requireFelt value label = .ok felt) (l : String) :
    requireFelt felt l = .ok felt := by
  unfold requireFelt at h ⊢
  split at h
  · cases h
  · rename_i canonical hcanonical
    split at h
    · cases h
    · rename_i hne
      cases h
      obtain ⟨hhex, hlimit⟩ := canonicalizeStarknetFelt_spec hcanonical
      rw [hhex, canonicalizeStarknetFelt_hex hlimit, ← hhex]
      exact if_neg hne

theorem canonicalMakerEntry_ok_iff {entry x : MakerDirectoryEntry} {chainId : Text} :
    canonicalMakerEntry p entry chainId = .ok x ↔
      requireText entry.makerId "makerId" = .ok x.makerId ∧
      canonicalKeyWindows p entry.quoteKeys (String.ofList entry.makerId ++ ".quoteKeys") =
        .ok x.quoteKeys ∧
      requireFelt entry.settlementAccount "settlementAccount" = .ok x.settlementAccount ∧
      requireDigest entry.settlementKeyCommitment "settlementKeyCommitment" =
        .ok x.settlementKeyCommitment ∧
      requireTransportEndpoint p entry.transportEndpoint chainId = .ok x.transportEndpoint ∧
      canonicalKeyWindows p entry.transportKeys (String.ofList entry.makerId ++ ".transportKeys") =
        .ok x.transportKeys := by
  simp only [canonicalMakerEntry, bind_ok, pure_ok]
  constructor
  · rintro ⟨_, h1, _, h2, _, h3, _, h4, _, h5, _, h6, rfl⟩
    exact ⟨h1, h2, h3, h4, h5, h6⟩
  · rintro ⟨h1, h2, h3, h4, h5, h6⟩
    exact ⟨_, h1, _, h2, _, h3, _, h4, _, h5, _, h6, rfl⟩

/-- The same entry, with its keys in another order. -/
def EntryReordered (entry entry' : MakerDirectoryEntry) : Prop :=
  entry.quoteKeys.Perm entry'.quoteKeys ∧ entry.transportKeys.Perm entry'.transportKeys ∧
    entry' = { entry with quoteKeys := entry'.quoteKeys, transportKeys := entry'.transportKeys }

def EntryAlike (c d : Text → Text → Ordering) (entry : MakerDirectoryEntry) : Prop :=
  OrdersAlike c d (keyIds entry.quoteKeys) ∧ OrdersAlike c d (keyIds entry.transportKeys)

def EndpointKept (newUrl : Text → Option Url) (entry : MakerDirectoryEntry) : Prop :=
  ∀ u ∈ newUrl entry.transportEndpoint, ¬ ['/', '/'] <:+ u.href

section

variable [Std.TransCmp c] [Std.TransCmp d] {entry entry' x : MakerDirectoryEntry} {chainId : Text}

theorem canonicalMakerEntry_alike (hsame : EntryReordered entry entry')
    (halike : EntryAlike c d entry) (h : canonicalMakerEntry (p.collating c) entry chainId = .ok x) :
    canonicalMakerEntry (p.collating d) entry' chainId = .ok x := by
  obtain ⟨hid, hquote, haccount, hcommitment, hendpoint, htransport⟩ :=
    canonicalMakerEntry_ok_iff.mp h
  obtain ⟨hquotes, htransports, heq⟩ := hsame
  rw [canonicalMakerEntry_ok_iff, heq]
  exact ⟨hid, canonicalKeyWindows_alike hquotes halike.1 hquote _, haccount, hcommitment, hendpoint,
    canonicalKeyWindows_alike htransports halike.2 htransport _⟩

theorem canonicalMakerEntry_again (hurl : UrlLaws p.newUrl) (hkept : EndpointKept p.newUrl entry)
    (halike : EntryAlike c d entry) (h : canonicalMakerEntry (p.collating c) entry chainId = .ok x) :
    canonicalMakerEntry (p.collating d) x chainId = .ok x := by
  obtain ⟨hid, hquote, haccount, hcommitment, hendpoint, htransport⟩ :=
    canonicalMakerEntry_ok_iff.mp h
  obtain ⟨u, hu, -⟩ := requireTransportEndpoint_ok_iff.mp hendpoint
  exact canonicalMakerEntry_ok_iff.mpr ⟨requireText_again hid _,
    canonicalKeyWindows_again halike.1 hquote _, requireFelt_again haccount _,
    requireDigest_again hcommitment _,
    (requireTransportEndpoint_again hurl hu hendpoint).mpr (hkept u hu),
    canonicalKeyWindows_again halike.2 htransport _⟩

end

/-! ## Epochs -/

/-- What is asked of the fields of an epoch that are taken over as they are. -/
def MakerDirectoryEpochBody.Allowed (epoch : MakerDirectoryEpochBody) : Prop :=
  epoch.version = 1 ∧ epoch.domain = makerDirectoryDomain ∧
    requirePool epoch.chainId = .ok epoch.chainId ∧ 0 ≤ epoch.epoch ∧ epoch.epoch ≤ maxSafeInteger ∧
    (0 < epoch.issuedAt ∧ epoch.issuedAt ≤ maxSafeInteger) ∧
    (0 < epoch.validFrom ∧ epoch.validFrom ≤ maxSafeInteger) ∧
    (0 < epoch.validUntil ∧ epoch.validUntil ≤ maxSafeInteger) ∧ epoch.issuedAt ≤ epoch.validFrom ∧
    epoch.validFrom - epoch.issuedAt ≤ maxDirectoryPublicationLeadSeconds ∧
    epoch.validFrom < epoch.validUntil ∧
    epoch.validUntil - epoch.validFrom ≤ maxDirectoryLifetimeSeconds ∧
    (epoch.previousEpochDigest = none ↔ epoch.epoch = 0)

abbrev byMakerId (collation : Text → Text → Ordering) (left right : MakerDirectoryEntry) :
    Ordering := collation left.makerId right.makerId

theorem canonicalEpochBody_ok_iff {epoch body : MakerDirectoryEpochBody} :
    canonicalEpochBody (p.collating c) epoch = .ok body ↔ epoch.Allowed ∧
      requireText epoch.authorityKeyId "authorityKeyId" = .ok body.authorityKeyId ∧
      requirePrevious epoch.previousEpochDigest "previousEpochDigest" =
        .ok body.previousEpochDigest ∧
      requireText epoch.registryRevision "registryRevision" = .ok body.registryRevision ∧
      body = { epoch with
        authorityKeyId := body.authorityKeyId
        previousEpochDigest := body.previousEpochDigest
        registryRevision := body.registryRevision
        makers := body.makers } ∧
      ∃ entries, List.Forall₂ (fun maker x =>
          canonicalMakerEntry (p.collating c) maker epoch.chainId = .ok x) epoch.makers entries ∧
        body.makers = sort (byMakerId c) entries ∧ entries ≠ [] ∧
        (entries.map (·.makerId)).Nodup := by
  simp only [canonicalEpochBody, bind_ok, throwIf_ok, pure_ok,
    requireTimestamp_ok_iff, requireSafeNonNegative, requirePool, mapM_ok_iff,
    MakerDirectoryEpochBody.Allowed, not_or, not_not]
  constructor
  · rintro ⟨_, ⟨hversion, hdomain⟩, _, ⟨_, hpool, rfl⟩, _, ⟨_, hepoch, rfl⟩, _, ⟨h1, h2, rfl⟩, _,
      ⟨h3, h4, rfl⟩, _, ⟨h5, h6, rfl⟩, _, ⟨h7, h8⟩, _, ⟨h9, h10⟩, _, hzero, _, hpositive, entries,
      hentries, _, hne, _, hnodup, _, hkey, _, hprevious, _, hrevision, rfl⟩
    have hperm := perm_sort (byMakerId c) entries
    rw [show sort (fun left right => (p.collating c).localeCompare left.makerId right.makerId) entries =
      sort (byMakerId c) entries from rfl, (hperm.map _).nodup_iff] at hnodup
    refine ⟨⟨hversion, hdomain, ⟨(), hpool, trivial⟩, by omega, by omega, ⟨h1, h2⟩, ⟨h3, h4⟩, ⟨h5, h6⟩,
      by omega, by omega, by omega, by omega, ?_⟩, hkey, hprevious, hrevision, rfl, entries, hentries,
      rfl, ?_, hnodup⟩
    · by_cases hnone : epoch.previousEpochDigest = none
      · exact iff_of_true hnone (by simp_all; omega)
      · exact iff_of_false hnone (by simp_all)
    · rintro rfl
      exact hne rfl
  · rintro ⟨⟨hversion, hdomain, ⟨_, hpool, -⟩, h0, h0', ⟨h1, h2⟩, ⟨h3, h4⟩, ⟨h5, h6⟩, h7, h8, h9, h10,
      hgenesis⟩, hkey, hprevious, hrevision, hbody, entries, hentries, hmakers, hne, hnodup⟩
    have hperm := perm_sort (byMakerId c) entries
    refine ⟨(), ⟨hversion, hdomain⟩, _, ⟨(), hpool, rfl⟩, _, ⟨(), by omega, rfl⟩, _, ⟨h1, h2, rfl⟩, _,
      ⟨h3, h4, rfl⟩, _, ⟨h5, h6, rfl⟩, (), by omega, (), by omega, (), ?_, (), ?_, entries, hentries,
      (), ?_, (), ?_, _, hkey, _, hprevious, _, hrevision, ?_⟩
    · rintro ⟨hzero, hsome⟩
      exact hsome (hgenesis.mpr hzero)
    · rintro ⟨hpositive, hnone⟩
      exact hpositive.ne' (hgenesis.mp hnone)
    · exact fun hnil => hne (List.perm_nil.mp (hnil ▸ hperm.symm))
    · exact (hperm.map _).nodup_iff.mpr hnodup
    · rw [hbody, hmakers]
      rfl

/-! ## Texts -/

/-- No key has a private part. -/
def MakerDirectoryEntry.Public (entry : MakerDirectoryEntry) : Prop :=
  (∀ key ∈ entry.quoteKeys, key.publicKey.d = false) ∧
    ∀ key ∈ entry.transportKeys, key.publicKey.d = false

def MakerDirectoryEpochBody.Parsed (body : MakerDirectoryEpochBody) (text : Text) : Prop :=
  (∀ maker ∈ body.makers, maker.Public) ∧ body.tree.render = text

theorem MakerKeyWindow.tree_inj {l : MakerKeyWindow} (hk : k.publicKey.d = false)
    (hl : l.publicKey.d = false) (h : k.tree = l.tree) : k = l := by
  obtain ⟨keyId, ⟨kty, crv, x, y, _⟩, validFrom, validUntil, revokedAt⟩ := k
  obtain ⟨keyId', ⟨kty', crv', x', y', _⟩, validFrom', validUntil', revokedAt'⟩ := l
  cases hk
  cases hl
  cases revokedAt <;> cases revokedAt' <;> simp_all [MakerKeyWindow.tree, P256PublicJwk.tree, field]

theorem map_inj {α β : Type} {f : α → β} {P : α → Prop} (h : ∀ {a b}, P a → P b → f a = f b → a = b)
    {l : List α} : ∀ {l' : List α}, (∀ a ∈ l, P a) → (∀ a ∈ l', P a) → l.map f = l'.map f → l = l' := by
  induction l with
  | nil =>
    intro l' _ _ heq
    exact (List.map_eq_nil_iff.mp heq.symm).symm
  | cons a l ih =>
    rintro (_ | ⟨b, l'⟩) hl hl' heq
    · cases heq
    · obtain ⟨hab, heq⟩ := List.cons.inj heq
      obtain ⟨ha, hl⟩ := List.forall_mem_cons.mp hl
      obtain ⟨hb, hl'⟩ := List.forall_mem_cons.mp hl'
      rw [h ha hb hab, ih hl hl' heq]

theorem MakerDirectoryEntry.tree_inj {x y : MakerDirectoryEntry} (hx : x.Public) (hy : y.Public)
    (h : x.tree = y.tree) : x = y := by
  obtain ⟨makerId, account, commitment, endpoint, quoteKeys, transportKeys⟩ := x
  obtain ⟨makerId', account', commitment', endpoint', quoteKeys', transportKeys'⟩ := y
  simp only [MakerDirectoryEntry.tree, field, Tree.object.injEq, List.cons.injEq, Prod.mk.injEq,
    Tree.text.injEq, Tree.array.injEq, true_and, and_true] at h
  obtain ⟨rfl, hquote, rfl, rfl, rfl, htransport⟩ := h
  have hquote : quoteKeys = quoteKeys' := map_inj MakerKeyWindow.tree_inj hx.1 hy.1 hquote
  have htransport : transportKeys = transportKeys' :=
    map_inj MakerKeyWindow.tree_inj hx.2 hy.2 htransport
  rw [hquote, htransport]

theorem MakerDirectoryEpochBody.tree_inj {x y : MakerDirectoryEpochBody}
    (hx : ∀ maker ∈ x.makers, maker.Public) (hy : ∀ maker ∈ y.makers, maker.Public)
    (h : x.tree = y.tree) : x = y := by
  obtain ⟨version, domain, chainId, epoch, previous, revision, issued, valid, until', authority,
    makers⟩ := x
  obtain ⟨version', domain', chainId', epoch', previous', revision', issued', valid', until'',
    authority', makers'⟩ := y
  simp only [MakerDirectoryEpochBody.tree, field, Tree.object.injEq, List.cons.injEq, Prod.mk.injEq,
    Tree.text.injEq, Tree.number.injEq, Tree.array.injEq, true_and, and_true] at h
  obtain ⟨rfl, rfl, rfl, rfl, rfl, hmakers, hprevious, rfl, rfl, rfl, rfl⟩ := h
  have hmakers : makers = makers' := map_inj MakerDirectoryEntry.tree_inj hx hy hmakers
  rw [hmakers]
  cases previous <;> cases previous' <;> simp_all

theorem canonicalKeyWindows_public (h : canonicalKeyWindows (p.collating c) keys label = .ok r) :
    ∀ key ∈ r, key.publicKey.d = false := by
  obtain ⟨-, -, unordered, hkeys, rfl⟩ := canonicalKeyWindows_ok_iff.mp h
  intro key hkey
  obtain ⟨given, -, hgiven⟩ := mem_of_mapM (mapM_ok_iff.mpr hkeys) key (mem_sort.mp hkey)
  obtain ⟨⟨-, -, -, -, -, hallowed⟩, rfl⟩ := canonicalKeyWindow_ok_iff.mp hgiven
  exact hallowed.2.2.2.2

theorem canonicalEpochBody_public {epoch body : MakerDirectoryEpochBody}
    (h : canonicalEpochBody (p.collating c) epoch = .ok body) : ∀ maker ∈ body.makers, maker.Public := by
  obtain ⟨-, -, -, -, -, entries, hentries, hmakers, -, -⟩ := canonicalEpochBody_ok_iff.mp h
  intro maker hmaker
  rw [hmakers, mem_sort] at hmaker
  obtain ⟨given, -, hgiven⟩ := mem_of_mapM (mapM_ok_iff.mpr hentries) maker hmaker
  obtain ⟨-, hquote, -, -, -, htransport⟩ := canonicalMakerEntry_ok_iff.mp hgiven
  exact ⟨canonicalKeyWindows_public hquote, canonicalKeyWindows_public htransport⟩

theorem canonicalMakerDirectoryEpoch_ok_iff {epoch : MakerDirectoryEpochBody} :
    canonicalMakerDirectoryEpoch p epoch = .ok text ↔
      ∃ body, canonicalEpochBody p epoch = .ok body ∧ text = body.tree.render := by
  simp only [canonicalMakerDirectoryEpoch, bind_ok, pure_ok]

/-- The canonical text fixes the normalised fields. -/
theorem canonicalEpochBody_unique {epoch body body' : MakerDirectoryEpochBody}
    (h : canonicalEpochBody (p.collating c) epoch = .ok body) (htext : text = body.tree.render)
    (hparsed : body'.Parsed text) : body' = body := by
  refine MakerDirectoryEpochBody.tree_inj hparsed.1 (canonicalEpochBody_public h) ?_
  exact Tree.render_injective (hparsed.2.trans htext)

/-! ## Two devices -/

/-- The same epoch, with its makers and their keys in another order. -/
def Reordered (epoch epoch' : MakerDirectoryEpochBody) : Prop :=
  ∃ makers, List.Forall₂ EntryReordered epoch.makers makers ∧ makers.Perm epoch'.makers ∧
    epoch' = { epoch with makers := epoch'.makers }

def makerIds (epoch : MakerDirectoryEpochBody) : List Text :=
  epoch.makers.map fun maker => trim maker.makerId

structure CanonicalForm (p : Platform) (c d : Text → Text → Ordering)
    (epoch : MakerDirectoryEpochBody) (text : Text) : Prop where
  reordered : ∀ epoch', Reordered epoch epoch' →
    canonicalMakerDirectoryEpoch (p.collating c) epoch' = .ok text ∧
      canonicalMakerDirectoryEpoch (p.collating d) epoch' = .ok text
  again : ∀ body : MakerDirectoryEpochBody, body.Parsed text →
    canonicalMakerDirectoryEpoch (p.collating c) body = .ok text ∧
      canonicalMakerDirectoryEpoch (p.collating d) body = .ok text
  verified : ∀ signed options verified, signed.toMakerDirectoryEpochBody = epoch →
    verifyMakerDirectoryEpoch (p.collating c) signed options = .ok verified →
    digestMakerDirectoryEpoch (p.collating c) verified.body = .ok verified.digest ∧
      digestMakerDirectoryEpoch (p.collating d) verified.body = .ok verified.digest
  unique : ∀ epoch' body, canonicalEpochBody (p.collating d) epoch' = .ok body →
    canonicalMakerDirectoryEpoch (p.collating d) epoch' = .ok text →
    canonicalEpochBody (p.collating c) epoch = .ok body

/-- Both devices order the identifiers strictly and alike, and no endpoint ends in two slashes. -/
structure Portable (newUrl : Text → Option Url) (c d : Text → Text → Ordering)
    (epoch : MakerDirectoryEpochBody) : Prop where
  makers : OrdersAlike c d (makerIds epoch)
  entries : ∀ maker ∈ epoch.makers, EntryAlike c d maker
  endpoints : ∀ maker ∈ epoch.makers, EndpointKept newUrl maker

theorem Portable.left {newUrl : Text → Option Url} {epoch : MakerDirectoryEpochBody}
    (h : Portable newUrl c d epoch) : Portable newUrl c c epoch where
  makers := h.makers.left
  entries := fun maker hmaker => ⟨(h.entries maker hmaker).1.left, (h.entries maker hmaker).2.left⟩
  endpoints := h.endpoints

variable {epoch epoch' body : MakerDirectoryEpochBody}

theorem entryReordered_refl (makers : List MakerDirectoryEntry) :
    List.Forall₂ EntryReordered makers makers :=
  List.forall₂_same.mpr fun _ _ => ⟨List.Perm.refl _, List.Perm.refl _, rfl⟩

theorem makerIds_canonical {makers entries : List MakerDirectoryEntry} {chainId : Text}
    (h : List.Forall₂ (fun maker x => canonicalMakerEntry p maker chainId = .ok x) makers entries) :
    entries.map (·.makerId) = makers.map fun maker => trim maker.makerId := by
  induction h with
  | nil => rfl
  | cons hx _ ih =>
    rw [List.map_cons, ih, (requireText_ok_iff.mp (canonicalMakerEntry_ok_iff.mp hx).1).2]
    rfl

section

variable (h : canonicalEpochBody (p.collating c) epoch = .ok body)

include h

theorem makerIds_sorted : body.makers.map (·.makerId) = sort c (makerIds epoch) := by
  obtain ⟨-, -, -, -, -, entries, hentries, hmakers, -, -⟩ := canonicalEpochBody_ok_iff.mp h
  rw [hmakers, makerIds, ← makerIds_canonical hentries]
  exact List.map_insertionSort _ _ _ _ fun _ _ _ _ => Iff.rfl

/-- The makers of a canonical epoch are told apart by their identifiers. -/
theorem canonicalEpochBody_distinct :
    ∀ x ∈ body.makers, ∀ y ∈ body.makers, x.makerId = y.makerId → x = y := by
  obtain ⟨-, -, -, -, -, entries, -, hmakers, -, hnodup⟩ := canonicalEpochBody_ok_iff.mp h
  intro x hx y hy
  rw [hmakers, mem_sort] at hx hy
  exact List.inj_on_of_nodup_map hnodup hx hy

theorem exists_entry (hmaker : maker ∈ epoch.makers) :
    ∃ x ∈ body.makers, canonicalMakerEntry (p.collating c) maker epoch.chainId = .ok x ∧
      x.makerId = trim maker.makerId := by
  obtain ⟨-, -, -, -, -, entries, hentries, hmakers, -, -⟩ := canonicalEpochBody_ok_iff.mp h
  obtain ⟨x, hx, hentry⟩ := exists_of_mapM (mapM_ok_iff.mpr hentries) maker hmaker
  refine ⟨x, ?_, hentry, (requireText_ok_iff.mp (canonicalMakerEntry_ok_iff.mp hentry).1).2⟩
  rw [hmakers, mem_sort]
  exact hx

end

section

variable [Std.TransCmp c] [Std.TransCmp d]

theorem canonicalEpochBody_alike (hportable : Portable p.newUrl c d epoch)
    (hsame : Reordered epoch epoch') (h : canonicalEpochBody (p.collating c) epoch = .ok body) :
    canonicalEpochBody (p.collating d) epoch' = .ok body := by
  obtain ⟨hallowed, hkey, hprevious, hrevision, hbody, entries, hentries, hmakers, hne, hnodup⟩ :=
    canonicalEpochBody_ok_iff.mp h
  obtain ⟨makers, hreordered, hperm, heq⟩ := hsame
  have hentries' : List.Forall₂ (fun maker x =>
      canonicalMakerEntry (p.collating d) maker epoch.chainId = .ok x) makers entries := by
    have halike := hportable.entries
    clear hmakers hne hnodup hperm heq hportable
    generalize epoch.makers = given at hreordered hentries halike
    induction hreordered generalizing entries with
    | nil =>
      cases hentries
      exact .nil
    | cons hone _ ih =>
      obtain ⟨x, xs, hx, hxs, rfl⟩ := List.forall₂_cons_left_iff.mp hentries
      obtain ⟨hfirst, halike⟩ := List.forall_mem_cons.mp halike
      exact .cons (canonicalMakerEntry_alike hone hfirst hx) (ih _ hxs halike)
  obtain ⟨entries', hordered, hpermuted⟩ := List.perm_comp_forall₂ hperm.symm hentries'
  rw [canonicalEpochBody_ok_iff, heq]
  refine ⟨hallowed, hkey, hprevious, hrevision, hbody, entries', hordered, ?_, ?_, ?_⟩
  · rw [hmakers]
    refine sort_alike (f := MakerDirectoryEntry.makerId) hpermuted.symm hnodup ?_
    rw [makerIds_canonical hentries]
    exact hportable.makers
  · rintro rfl
    exact hne hpermuted.symm.eq_nil
  · exact (hpermuted.map _).nodup_iff.mpr hnodup

theorem requirePrevious_again {previous r : Option Text}
    (h : requirePrevious previous label = .ok r) (l : String) : requirePrevious r l = .ok r := by
  cases previous with
  | none =>
    cases h
    rfl
  | some digest =>
    simp only [requirePrevious, bind_ok, pure_ok] at h
    obtain ⟨digest', hdigest, rfl⟩ := h
    simp only [requirePrevious, requireDigest_again hdigest, ok_bind]
    rfl

section

variable (hurl : UrlLaws p.newUrl) (hportable : Portable p.newUrl c d epoch)
  (h : canonicalEpochBody (p.collating c) epoch = .ok body)

include hurl hportable h

theorem canonicalEpochBody_again : canonicalEpochBody (p.collating d) body = .ok body := by
  have hgenesis := (canonicalEpochBody_ok h).2.2.2.2.2.2.2
  obtain ⟨hallowed, hkey, hprevious, hrevision, hbody, entries, hentries, hmakers, hne, hnodup⟩ :=
    canonicalEpochBody_ok_iff.mp h
  have hperm := perm_sort (byMakerId c) entries
  have hagain : ∀ x ∈ body.makers, canonicalMakerEntry (p.collating d) x epoch.chainId = .ok x := by
    intro x hx
    rw [hmakers, mem_sort] at hx
    obtain ⟨maker, hmaker, hentry⟩ := mem_of_mapM (mapM_ok_iff.mpr hentries) x hx
    exact canonicalMakerEntry_again hurl (hportable.endpoints maker hmaker)
      (hportable.entries maker hmaker) hentry
  have hchain : body.chainId = epoch.chainId := by rw [hbody]
  rw [canonicalEpochBody_ok_iff]
  refine ⟨?_, requireText_again hkey _, requirePrevious_again hprevious _,
    requireText_again hrevision _, rfl, body.makers, ?_, ?_, ?_, ?_⟩
  · obtain ⟨h1, h2, h3, h4, h5, h6, h7, h8, h9, h10, h11, h12, -⟩ := hallowed
    rw [hbody]
    exact ⟨h1, h2, h3, h4, h5, h6, h7, h8, h9, h10, h11, h12, hgenesis⟩
  · rw [hchain]
    exact List.forall₂_same.mpr hagain
  · rw [hmakers]
    refine sort_alike (f := MakerDirectoryEntry.makerId) hperm.symm hnodup ?_
    rw [makerIds_canonical hentries]
    exact hportable.makers
  · rw [hmakers]
    exact fun hnil => hne (List.perm_nil.mp (hnil ▸ hperm.symm))
  · rw [hmakers]
    exact (hperm.map _).nodup_iff.mpr hnodup

theorem Portable.canonicalForm : CanonicalForm p c d epoch body.tree.render where
  reordered := fun epoch' hsame =>
    ⟨canonicalMakerDirectoryEpoch_ok_iff.mpr ⟨body, canonicalEpochBody_alike hportable.left hsame h, rfl⟩,
      canonicalMakerDirectoryEpoch_ok_iff.mpr ⟨body, canonicalEpochBody_alike hportable hsame h, rfl⟩⟩
  again := by
    intro body' hparsed
    rw [canonicalEpochBody_unique h rfl hparsed]
    exact ⟨canonicalMakerDirectoryEpoch_ok_iff.mpr
        ⟨body, canonicalEpochBody_again hurl hportable.left h, rfl⟩,
      canonicalMakerDirectoryEpoch_ok_iff.mpr ⟨body, canonicalEpochBody_again hurl hportable h, rfl⟩⟩
  verified := by
    rintro signed options verified rfl hverified
    have hgenuine := (verifyMakerDirectoryEpoch_ok hverified).1
    cases Except.ok.inj (h.symm.trans hgenuine.canonical)
    rw [hgenuine.hashed]
    simp only [digestMakerDirectoryEpoch, canonicalMakerDirectoryEpoch,
      canonicalEpochBody_again hurl hportable.left h, canonicalEpochBody_again hurl hportable h]
    exact ⟨rfl, rfl⟩
  unique := by
    intro epoch' body' h' htext
    obtain ⟨_, hbody', hrender⟩ := canonicalMakerDirectoryEpoch_ok_iff.mp htext
    cases Except.ok.inj (h'.symm.trans hbody')
    rw [canonicalEpochBody_unique h rfl ⟨canonicalEpochBody_public h', hrender.symm⟩]
    exact h

end

end

theorem exists_map_perm {α β : Type} {f : α → β} {l : List α} {k : List β}
    (h : (l.map f).Perm k) : ∃ l', l.Perm l' ∧ k = l'.map f := by
  have hcomp := congrFun (congrFun (List.eq_map_comp_perm f) k) l
  obtain ⟨l', hk, hperm⟩ := hcomp.mpr h.symm
  exact ⟨l', hperm.symm, hk⟩

section

variable (h : canonicalEpochBody (p.collating c) epoch = .ok body)
  (hform : CanonicalForm p c d epoch body.tree.render)

include h hform

/-- In any order, both devices make the same body of an epoch. -/
theorem CanonicalForm.body_eq (hsame : Reordered epoch epoch') :
    canonicalEpochBody (p.collating c) epoch' = .ok body ∧
      canonicalEpochBody (p.collating d) epoch' = .ok body := by
  obtain ⟨hc, hd⟩ := hform.reordered epoch' hsame
  obtain ⟨bc, hbc, hrc⟩ := canonicalMakerDirectoryEpoch_ok_iff.mp hc
  obtain ⟨bd, hbd, hrd⟩ := canonicalMakerDirectoryEpoch_ok_iff.mp hd
  rw [hbc, hbd, canonicalEpochBody_unique h rfl ⟨canonicalEpochBody_public hbc, hrc.symm⟩,
    canonicalEpochBody_unique h rfl ⟨canonicalEpochBody_public hbd, hrd.symm⟩]
  exact ⟨rfl, rfl⟩

/-- Both devices make the same entry of a maker, with its keys in any order. -/
theorem CanonicalForm.entry_eq {maker' x : MakerDirectoryEntry} (hmaker : maker ∈ epoch.makers)
    (hsame : EntryReordered maker maker') (hx : x ∈ body.makers)
    (hid : x.makerId = trim maker.makerId) :
    canonicalMakerEntry (p.collating c) maker' epoch.chainId = .ok x ∧
      canonicalMakerEntry (p.collating d) maker' epoch.chainId = .ok x := by
  obtain ⟨before, after, hsplit⟩ := List.append_of_mem hmaker
  have hmem : maker' ∈ before ++ maker' :: after := by simp
  have hid' : maker'.makerId = maker.makerId := by rw [hsame.2.2]
  have hone : Reordered epoch { epoch with makers := before ++ maker' :: after } := by
    refine ⟨before ++ maker' :: after, ?_, List.Perm.refl _, rfl⟩
    rw [hsplit]
    exact List.rel_append (entryReordered_refl before) (.cons hsame (entryReordered_refl after))
  obtain ⟨hc, hd⟩ := hform.body_eq h hone
  obtain ⟨y, hy, hyc, hyid⟩ := exists_entry hc hmem
  obtain ⟨z, hz, hzd, hzid⟩ := exists_entry hd hmem
  rw [canonicalEpochBody_distinct h x hx y hy (by rw [hid, hyid, hid'])]
  refine ⟨hyc, ?_⟩
  rw [canonicalEpochBody_distinct h y hy z hz (by rw [hyid, hzid])]
  exact hzd

theorem CanonicalForm.endpoint_kept (hurl : UrlLaws p.newUrl) (hmaker : maker ∈ epoch.makers) :
    EndpointKept p.newUrl maker := by
  intro u hu
  obtain ⟨x, hx, hentry, hid⟩ := exists_entry h hmaker
  obtain ⟨b, hb, hrender⟩ := canonicalMakerDirectoryEpoch_ok_iff.mp
    (hform.again body ⟨canonicalEpochBody_public h, rfl⟩).1
  have hbody : b = body :=
    canonicalEpochBody_unique h rfl ⟨canonicalEpochBody_public hb, hrender.symm⟩
  rw [hbody] at hb
  obtain ⟨y, hy, hagain, hyid⟩ := exists_entry hb hx
  rw [hid, trim_trim, ← hid] at hyid
  rw [canonicalEpochBody_distinct h y hy x hx hyid] at hagain
  obtain ⟨-, -, -, -, hendpoint, -⟩ := canonicalMakerEntry_ok_iff.mp hentry
  obtain ⟨-, -, -, -, hendpoint', -⟩ := canonicalMakerEntry_ok_iff.mp hagain
  rw [(canonicalEpochBody_ok h).2.2.1] at hendpoint'
  exact (requireTransportEndpoint_again hurl hu hendpoint).mp hendpoint'

variable [Std.TransCmp c] [Std.TransCmp d]

theorem CanonicalForm.makers_alike : OrdersAlike c d (makerIds epoch) := by
  obtain ⟨-, -, -, -, -, entries, hentries, -, -, hnodup⟩ := canonicalEpochBody_ok_iff.mp h
  rw [makerIds_canonical hentries] at hnodup
  refine ordersAlike_of_sort (s := body.makers.map (·.makerId)) hnodup fun ids hperm => ?_
  obtain ⟨makers, hmakers, rfl⟩ := exists_map_perm hperm
  have hsame : Reordered epoch { epoch with makers } :=
    ⟨epoch.makers, entryReordered_refl _, hmakers, rfl⟩
  obtain ⟨hc, hd⟩ := hform.body_eq h hsame
  exact ⟨(makerIds_sorted hc).symm, (makerIds_sorted hd).symm⟩

theorem CanonicalForm.entries_alike (hmaker : maker ∈ epoch.makers) : EntryAlike c d maker := by
  obtain ⟨x, hx, hentry, hid⟩ := exists_entry h hmaker
  obtain ⟨-, hquote, -, -, -, htransport⟩ := canonicalMakerEntry_ok_iff.mp hentry
  constructor
  · refine ordersAlike_of_sort (s := x.quoteKeys.map (·.keyId))
      (canonicalKeyWindows_ok_iff.mp hquote).2.1 fun ids hperm => ?_
    obtain ⟨keys, hkeys, rfl⟩ := exists_map_perm hperm
    have hsame : EntryReordered maker { maker with quoteKeys := keys } :=
      ⟨hkeys, List.Perm.refl _, rfl⟩
    obtain ⟨hc, hd⟩ := hform.entry_eq h hmaker hsame hx hid
    exact ⟨(keyIds_sorted (canonicalMakerEntry_ok_iff.mp hc).2.1).symm,
      (keyIds_sorted (canonicalMakerEntry_ok_iff.mp hd).2.1).symm⟩
  · refine ordersAlike_of_sort (s := x.transportKeys.map (·.keyId))
      (canonicalKeyWindows_ok_iff.mp htransport).2.1 fun ids hperm => ?_
    obtain ⟨keys, hkeys, rfl⟩ := exists_map_perm hperm
    have hsame : EntryReordered maker { maker with transportKeys := keys } :=
      ⟨List.Perm.refl _, hkeys, rfl⟩
    obtain ⟨hc, hd⟩ := hform.entry_eq h hmaker hsame hx hid
    exact ⟨(keyIds_sorted (canonicalMakerEntry_ok_iff.mp hc).2.2.2.2.2).symm,
      (keyIds_sorted (canonicalMakerEntry_ok_iff.mp hd).2.2.2.2.2).symm⟩

end

/-- The text of an accepted epoch is canonical on two devices exactly when the epoch is portable. -/
theorem canonicalText_iff (p : Platform) (c d : Text → Text → Ordering) [Std.TransCmp c]
    [Std.TransCmp d] (hurl : UrlLaws p.newUrl) (epoch : MakerDirectoryEpochBody) (text : Text)
    (h : canonicalMakerDirectoryEpoch (p.collating c) epoch = .ok text) :
    CanonicalForm p c d epoch text ↔ Portable p.newUrl c d epoch := by
  obtain ⟨body, hbody, rfl⟩ := canonicalMakerDirectoryEpoch_ok_iff.mp h
  refine ⟨fun hform => ⟨hform.makers_alike hbody, fun maker hmaker => ?_, fun maker hmaker => ?_⟩,
    fun hportable => hportable.canonicalForm hurl hbody⟩
  · exact hform.entries_alike hbody hmaker
  · exact hform.endpoint_kept hbody hurl hmaker

/-! ## Two makers -/

def sampleUrl : Url :=
  ⟨"https:".toList, [], [], "a.example".toList, [], [], "https://a.example/".toList⟩

def sampleNewUrl (text : Text) : Option Url :=
  if text = "https://a.example".toList ∨ text = "https://a.example/".toList then some sampleUrl
  else none

def samplePlatform : Platform where
  newUrl := sampleNewUrl
  localeCompare := compareText
  sha256 _ := Vector.replicate 32 0
  verify _ _ _ := .ok true

theorem sampleNewUrl_eq {u : Url} (h : sampleNewUrl text = some u) : u = sampleUrl := by
  unfold sampleNewUrl at h
  split at h
  · exact (Option.some.inj h).symm
  · cases h

theorem samplePlatform_urlLaws : UrlLaws samplePlatform.newUrl where
  href := fun {text u} hu _ => by
    obtain rfl := sampleNewUrl_eq hu
    have hread : sampleNewUrl "https://a.example/".toList = some sampleUrl := if_pos (Or.inr rfl)
    exact hread
  stem := fun {text u stem} hu _ hstem => by
    obtain rfl := sampleNewUrl_eq hu
    obtain rfl : "https://a.example".toList = stem := List.append_cancel_right hstem
    have hread : sampleNewUrl "https://a.example".toList = some sampleUrl := if_pos (Or.inl rfl)
    exact ⟨sampleUrl.href, hread, Or.inr ⟨rfl, by decide⟩⟩

def sampleKeys : List MakerKeyWindow :=
  [⟨['k'], ⟨"EC".toList, "P-256".toList, List.replicate 43 'A', List.replicate 43 'B', false⟩, 1, 9,
    none⟩]

def sampleMaker (id : Char) : MakerDirectoryEntry :=
  ⟨[id], "0x1".toList, '0' :: 'x' :: List.replicate 64 'a', "https://a.example/".toList, sampleKeys,
    sampleKeys⟩

def sampleEpoch (first second : Char) : MakerDirectoryEpochBody :=
  ⟨1, makerDirectoryDomain, "starknet:SN_MAIN".toList, 0, none, ['r'], 1, 2, 8, ['k'],
    [sampleMaker first, sampleMaker second]⟩

/-- A collation that takes a letter with dots for the letter. -/
abbrev withoutDots : Text → Text → Ordering :=
  byText fun text => text.map fun c => if c = 'ä' then 'a' else c

theorem canonicalText_iff_two : ∃ text,
    canonicalMakerDirectoryEpoch (samplePlatform.collating compareText) (sampleEpoch 'a' 'b') =
      .ok text ∧
    CanonicalForm samplePlatform compareText withoutDots (sampleEpoch 'a' 'b') text := by
  have haccepted : (canonicalMakerDirectoryEpoch (samplePlatform.collating compareText)
      (sampleEpoch 'a' 'b')).isOk = true := by
    decide +kernel
  obtain ⟨text, htext⟩ | ⟨e, he⟩ := except_ok_or_error
    (canonicalMakerDirectoryEpoch (samplePlatform.collating compareText) (sampleEpoch 'a' 'b'))
  · refine ⟨text, htext, (canonicalText_iff samplePlatform compareText withoutDots
      samplePlatform_urlLaws (sampleEpoch 'a' 'b') text htext).mpr ⟨?_, ?_, ?_⟩⟩
    · unfold OrdersAlike
      decide +kernel
    · intro maker hmaker
      have hkeys : maker.quoteKeys = sampleKeys ∧ maker.transportKeys = sampleKeys := by
        rcases List.mem_pair.mp hmaker with rfl | rfl <;> exact ⟨rfl, rfl⟩
      unfold EntryAlike OrdersAlike
      rw [hkeys.1, hkeys.2]
      decide +kernel
    · intro maker _ u hu
      rw [sampleNewUrl_eq hu]
      decide
  · rw [he] at haccepted
    cases haccepted

/-- Two collations order two makers differently, and the text differs. -/
theorem collation_matters : ∃ text,
    canonicalMakerDirectoryEpoch (samplePlatform.collating compareText) (sampleEpoch 'z' 'ä') =
      .ok text ∧
    ¬ CanonicalForm samplePlatform compareText withoutDots (sampleEpoch 'z' 'ä') text := by
  have haccepted : (canonicalMakerDirectoryEpoch (samplePlatform.collating compareText)
      (sampleEpoch 'z' 'ä')).isOk = true := by
    decide +kernel
  obtain ⟨text, htext⟩ | ⟨e, he⟩ := except_ok_or_error
    (canonicalMakerDirectoryEpoch (samplePlatform.collating compareText) (sampleEpoch 'z' 'ä'))
  · refine ⟨text, htext, fun hform => ?_⟩
    have hsame := (hform.reordered _ ⟨_, entryReordered_refl _, List.Perm.refl _, rfl⟩).2
    rw [← htext] at hsame
    revert hsame
    decide +kernel
  · rw [he] at haccepted
    cases haccepted

end App20.Directory
