import App20.Otc.Payloads

/-!
# Networks and tokens of payments

The networks that a payment request can name, and the tokens that can be paid on them. Which
localnet there is, if any, is fixed when the application is built.

* `otcStorageKey_chain`: a storage key tells the network that it was made for.
-/

namespace App20.Otc

open App20.Lib App20.Domain

/-! ## The build -/

structure Build where
  localnetWalletEnabled : Bool
  /-- `VITE_LOCALNET_USDC_TOKEN_ADDRESS` -/
  usdcTokenAddress : Option Text

def Build.localnetUsdcToken (build : Build) : Text :=
  if build.localnetWalletEnabled then build.usdcTokenAddress.getD "0x0".toList else "0x0".toList

/-! ## Networks -/

def localnetChainId : Text := "0x51554945544c494e455f4c4f43414c".toList
/-- `constants.StarknetChainId.SN_MAIN` -/
def mainChainId : Text := "0x534e5f4d41494e".toList
/-- `constants.StarknetChainId.SN_SEPOLIA` -/
def sepoliaChainId : Text := "0x534e5f5345504f4c4941".toList

/-- `normalizePaymentLinkChainId`; `none` is its error. -/
def normalizePaymentLinkChainId (build : Build) (chainId : Text) : Option Text :=
  if chainId = "SN_MAIN".toList ∨ feltEquals chainId mainChainId = true then
    some "SN_MAIN".toList
  else if chainId = "SN_SEPOLIA".toList ∨ feltEquals chainId sepoliaChainId = true then
    some "SN_SEPOLIA".toList
  else if build.localnetWalletEnabled = true ∧ feltEquals chainId localnetChainId = true then
    some localnetChainId
  else none

def paymentLinkChainIdsEqual (build : Build) (left right : Text) : Bool :=
  match normalizePaymentLinkChainId build left, normalizePaymentLinkChainId build right with
  | some l, some r => l = r
  | _, _ => false

variable {build : Build} {s : Text}

theorem paymentLinkChainIdsEqual_iff {left right : Text} :
    paymentLinkChainIdsEqual build left right = true ↔
      ∃ n, normalizePaymentLinkChainId build left = some n ∧
        normalizePaymentLinkChainId build right = some n := by
  unfold paymentLinkChainIdsEqual
  cases normalizePaymentLinkChainId build left with
  | none => simp
  | some l =>
    cases normalizePaymentLinkChainId build right with
    | none => simp
    | some r => simp [eq_comm]

/-! ## Storage keys -/

def otcStoragePrefix : Text := "app20/otc/v1".toList

def otcStorageKey (chainId selfAddress : Text) : Text :=
  otcStoragePrefix ++ '/' :: (chainId ++ '/' :: selfAddress)

theorem mem_dropWhile {p : Char → Bool} {c : Char} (hc : c ∈ s) (hp : p c = false) :
    c ∈ s.dropWhile p := by
  rw [← List.takeWhile_append_dropWhile (p := p) (l := s)] at hc
  rcases List.mem_append.mp hc with hmem | hmem
  · exact absurd (List.mem_takeWhile_imp hmem) (Bool.eq_false_iff.mp hp)
  · exact hmem

theorem mem_trim {c : Char} (hc : c ∈ s) (hspace : isSpace c = false) : c ∈ trim s := by
  unfold trim List.rdropWhile
  rw [List.mem_reverse]
  exact mem_dropWhile (List.mem_reverse.mpr (mem_dropWhile hc hspace)) hspace

theorem slash_not_mem_of_pattern (h : starknetFeltPattern s = true) : '/' ∉ s := by
  intro hmem
  unfold starknetFeltPattern at h
  rw [Bool.or_eq_true, Bool.and_eq_true] at h
  rcases h with hhex | ⟨-, hdec⟩
  · unfold hexadecimal at hhex
    split at hhex
    · rename_i x ds
      split at hhex
      · rename_i hcond
        obtain ⟨hx, -, hall⟩ := hcond
        rcases List.mem_cons.mp hmem with hslash | hmem
        · cases hslash
        · rcases List.mem_cons.mp hmem with hslash | hmem
          · rw [← hslash] at hx
            rcases hx with hx | hx <;> cases hx
          · have hdigit := List.all_eq_true.mp hall _ hmem
            cases hdigit
      · cases hhex
    · cases hhex
  · have hdigit := List.all_eq_true.mp hdec _ hmem
    cases hdigit

/-- Neither a felt nor the white space around it holds a slash. -/
theorem slash_not_mem_of_felt {c : Text} (h : canonicalizeStarknetFelt s = some c) : '/' ∉ s := by
  intro hmem
  unfold canonicalizeStarknetFelt at h
  dsimp only at h
  split at h
  · cases h
  split at h
  · cases h
  · rename_i hpattern
    have hpattern : starknetFeltPattern (trim s) = true := by
      by_contra hfalse
      exact hpattern (.inr (.inr (Bool.eq_false_iff.mpr hfalse)))
    exact slash_not_mem_of_pattern hpattern (mem_trim hmem rfl)

theorem slash_not_mem_of_feltEquals {a b : Text} (h : feltEquals a b = true) : '/' ∉ a := by
  unfold feltEquals starknetFeltEquals at h
  cases ha : canonicalizeStarknetFelt a with
  | none =>
    rw [ha] at h
    cases h
  | some c => exact slash_not_mem_of_felt ha

theorem slash_not_mem_of_chainId {chainId network : Text}
    (h : normalizePaymentLinkChainId build chainId = some network) : '/' ∉ chainId := by
  unfold normalizePaymentLinkChainId at h
  split at h
  · rename_i hmain
    rcases hmain with rfl | hmain
    · decide
    · exact slash_not_mem_of_feltEquals hmain
  split at h
  · rename_i hsepolia
    rcases hsepolia with rfl | hsepolia
    · decide
    · exact slash_not_mem_of_feltEquals hsepolia
  split at h
  · rename_i hlocal
    exact slash_not_mem_of_feltEquals hlocal.2
  · cases h

theorem append_slash_inj {a b r : Text} (ha : '/' ∉ a) (hb : '/' ∉ b)
    (h : a ++ '/' :: r = b ++ '/' :: s) : a = b := by
  induction a generalizing b with
  | nil =>
    cases b with
    | nil => rfl
    | cons c b => exact absurd (List.cons.inj h).1 fun hc => hb (hc ▸ List.mem_cons_self)
  | cons c a ih =>
    cases b with
    | nil => exact absurd (List.cons.inj h).1 fun hc => ha (hc ▸ List.mem_cons_self)
    | cons d b =>
      obtain ⟨hhead, htail⟩ := List.cons.inj h
      rw [hhead, ih (fun hm => ha (List.mem_cons_of_mem _ hm))
        (fun hm => hb (List.mem_cons_of_mem _ hm)) htail]

theorem otcStorageKey_chain {chainId chainId' self self' network network' : Text}
    (h : otcStorageKey chainId self = otcStorageKey chainId' self')
    (hc : normalizePaymentLinkChainId build chainId = some network)
    (hc' : normalizePaymentLinkChainId build chainId' = some network') : chainId = chainId' :=
  append_slash_inj (slash_not_mem_of_chainId hc) (slash_not_mem_of_chainId hc')
    (List.cons.inj (List.append_cancel_left h)).2

/-! ## Tokens -/

inductive App20TokenNetwork where
  | mainnet | sepolia | localnet
  deriving DecidableEq

inductive App20TokenKey where
  | strk | usdc
  deriving DecidableEq

def App20TokenKey.name : App20TokenKey → Text
  | .strk => "strk".toList
  | .usdc => "usdc".toList

structure App20CanonicalToken where
  network : App20TokenNetwork
  key : App20TokenKey
  address : Text
  symbol : Text
  decimals : Int
  aliases : List Text

def canonicalToken (input : App20CanonicalToken) : Option App20CanonicalToken := do
  let address ← canonicalizeStarknetFelt input.address
  guard (address ≠ "0x0".toList)
  return { input with address, aliases := (input.aliases.map toLowerCase).eraseDups }

def strkToken (network : App20TokenNetwork) : Option App20CanonicalToken :=
  canonicalToken ⟨network, .strk, addrSTRK, strkSymbol, strkDecimals,
    ["strk".toList, "starknet".toList, addrSTRK]⟩

def usdcToken (build : Build) (network : App20TokenNetwork) : Option App20CanonicalToken :=
  canonicalToken ⟨network, .usdc, build.localnetUsdcToken, "USDC".toList, 6,
    ["usdc".toList, "usd-coin".toList, build.localnetUsdcToken]⟩

def app20TokenRegistry (build : Build) (network : App20TokenNetwork) : List App20CanonicalToken :=
  (strkToken network).toList ++ if network = .localnet ∧ build.localnetWalletEnabled = true then
      (usdcToken build network).toList
    else []

/-- `/^[a-z0-9][a-z0-9._:-]{0,95}$/i` -/
def isTokenAlias (s : Text) : Bool :=
  match s with
  | c :: cs => (c.isAlpha || isDecDigit c) && decide (cs.length ≤ 95) &&
      cs.all fun d => d.isAlpha || isDecDigit d || d = '.' || d = '_' || d = ':' || d = '-'
  | [] => false

def resolveCanonicalToken (build : Build) (network : App20TokenNetwork) (input : Text) :
    Except String App20CanonicalToken :=
  let scopedRegistry := (app20TokenRegistry build network).filter fun token =>
    token.network = network
  let trimmed := trim input
  if starknetFeltPattern trimmed = true then
    match canonicalizeStarknetFelt input with
    | none => .error "Token address is not a bounded Starknet felt."
    | some address =>
      match scopedRegistry.find? fun entry => entry.address = address with
      | some token => .ok token
      | none => .error "Token contract is not reviewed for this network."
  else if isTokenAlias trimmed = true then
    let name := toLowerCase trimmed
    let found := scopedRegistry.filter fun entry =>
      entry.key.name = name || toLowerCase entry.symbol = name || name ∈ entry.aliases
    if 1 < (found.map App20CanonicalToken.address).eraseDups.length then
      .error "Token alias conflicts with reviewed registry metadata."
    else
      match found.head? with
      | some token => .ok token
      | none =>
        if name = "usdc".toList ∧ network ≠ .localnet then
          .error "USDC is not configured from reviewed metadata on this network."
        else .error "Asset not reviewed for this network."
  else .error "Token identifier is malformed."

def resolvePaymentRequestTokenForChain (build : Build) (request : PaymentRequestPayload)
    (chainId : Text) : Except String TokenRef := do
  if isCanonicalStrkToken request.token = true then
    match normalizeTokenRef request.token with
    | some token => return token
    | none => .error "Address must be a bounded Starknet felt."
  else
    throwIf ((∃ c ∈ request.chainId, feltEquals c chainId = false) ∨
        build.localnetWalletEnabled = false ∨ feltEquals chainId localnetChainId = false)
      "Chat can pay only STRK with canonical invoice metadata on public networks."
    match resolveCanonicalToken build .localnet request.token.address with
    | .ok token =>
      throwIf (token.key ≠ .usdc ∨ feltEquals token.address build.localnetUsdcToken = false ∨
          request.token.symbol ≠ token.symbol ∨ request.token.decimals ≠ token.decimals)
        "Chat can pay only the registry-resolved localnet USDC token or canonical STRK."
      return ⟨token.symbol, token.address, token.decimals⟩
    | .error _ =>
      .error "Chat can pay only the registry-resolved localnet USDC token or canonical STRK."

end App20.Otc
