import App20.Egress.Addresses
import App20.Lib.Sorting
import App20.Lib.Utf8

/-!
# Sessions with one server

A session resolves the name of its URL, pins the first address, and connects to nothing else. Each
request resolves the name again once the response is there. What resolvers and servers answer is up
to them.

* `resolvePublicAddresses`, `createEgressSession`, `Session.request`: the functions.
* `egress_safe`: which addresses a session connects to, and which texts a request returns.
-/

namespace App20.Egress

open App20.Lib App20.Domain

/-! ## Messages -/

/-- How a call ends without a result: it throws, or its promise is never settled. -/
inductive Stop where
  | refusal (message : String)
  | failure (message : String)
  | pending

structure Messages where
  urlLabel : String
  requestKind : String

def createErrorMessages (kind : String) : Messages where
  urlLabel := if kind = "RPC" then "RPC URL" else if kind = "egress" then "URL" else kind ++ " URL"
  requestKind := kind

namespace Messages

def notHttps (m : Messages) : String := m.urlLabel ++ " must be an absolute HTTPS URL"

def credentials (m : Messages) : String :=
  m.urlLabel ++ " must use an HTTPS origin without embedded credentials"

def lookupFailed (m : Messages) (message : String) : String :=
  m.requestKind ++ " hostname resolution failed: " ++ message

def noAddresses (m : Messages) : String :=
  m.requestKind ++ " hostname resolution returned no addresses"

def notPublic (m : Messages) : String :=
  m.urlLabel ++ " must resolve exclusively to public IP addresses"

def timedOut (m : Messages) : String := m.requestKind ++ " request timed out"

def requestFailed (m : Messages) (message : String) : String :=
  m.requestKind ++ " request failed: " ++ message

def redirect (m : Messages) : String := m.requestKind ++ " redirect refused"

def sizeLimit (m : Messages) : String :=
  m.requestKind ++ " response exceeds the response-size limit"

def noBody (m : Messages) : String := m.requestKind ++ " response has no body"

def readFailed (m : Messages) (message : String) : String :=
  m.requestKind ++ " response could not be read: " ++ message

def notUtf8 (m : Messages) : String := m.requestKind ++ " response is not valid UTF-8"

def pinLost (m : Messages) : String :=
  m.requestKind ++ " pinned address missing after DNS re-resolution"

def hostMismatch (m : Messages) : String :=
  m.requestKind ++ " Host header must match the request URL host"

end Messages

/-! ## Names -/

structure Url where
  protocol : Text
  username : Text
  password : Text
  hostname : Text
  host : Text

/-- `hostnameFromUrl` -/
def Url.name (url : Url) : Text :=
  if url.hostname.head? = some '[' ∧ url.hostname.getLast? = some ']' then
    url.hostname.tail.dropLast
  else url.hostname

def assertHttpsUrl (parsed : Option Url) (m : Messages) : Except Stop Url :=
  match parsed with
  | none => .error (.refusal m.notHttps)
  | some url =>
    if url.protocol ≠ "https:".toList ∨ url.hostname = [] ∨ url.username ≠ [] ∨
        url.password ≠ [] then
      .error (.refusal m.credentials)
    else .ok url

structure Endpoint where
  address : Text
  family : Nat
  deriving DecidableEq

structure Answer where
  address : Option Text
  /-- As a number; the resolver may leave it out. -/
  family : Option Int

/-- How a lookup ends: the time is over, it throws, or it answers; `none` is no array. -/
inductive Lookup where
  | aborted
  | failed (message : String)
  | answered (answers : Option (List Answer))

section Resolution

variable (isIP : Text → Nat)

/-- The answers for a name; an address stands for itself. -/
def answersFor (m : Messages) (hostname : Text) (lookup : Lookup) : Except Stop (List Answer) :=
  if isIP hostname ≠ 0 then .ok [⟨some hostname, some (isIP hostname)⟩]
  else
    match lookup with
    | .aborted => .error (.failure m.timedOut)
    | .failed message => .error (.failure (m.lookupFailed message))
    | .answered none => .error (.failure m.noAddresses)
    | .answered (some answers) => do
      throwIf (answers = []) (.failure m.noAddresses)
      return answers

/-- An answer has to be a public address, of the family it tells. -/
def acceptAnswer (m : Messages) (answer : Answer) : Except Stop Endpoint :=
  let address := answer.address.getD []
  let family := isIP address
  if (family ≠ 4 ∧ family ≠ 6) ∨ answer.family.any (fun told => told ≠ (family : Int)) = true ∨
      isPublicAddress isIP address = false then
    .error (.refusal m.notPublic)
  else .ok ⟨address, family⟩

def resolvePublicAddresses (m : Messages) (url : Url) (lookup : Lookup) :
    Except Stop (List Endpoint) := do
  let answers ← answersFor isIP m url.name lookup
  answers.mapM (acceptAnswer isIP m)

def resolvePublicEndpoint (m : Messages) (url : Url) (lookup : Lookup) : Except Stop Endpoint := do
  let answers ← resolvePublicAddresses isIP m url lookup
  match answers with
  | endpoint :: _ => return endpoint
  | [] => .error (.failure m.noAddresses)

def reresolvePinnedEndpoint (m : Messages) (url : Url) (endpoint : Endpoint) (lookup : Lookup) :
    Except Stop Endpoint := do
  let answers ← resolvePublicAddresses isIP m url lookup
  throwIf (endpoint ∉ answers) (.refusal m.pinLost)
  return endpoint

end Resolution

/-! ## Responses -/

/-- How a body ends after its chunks. -/
inductive Ending where
  | done
  | failed (message : String)
  | pending

structure Body where
  chunks : List Bytes
  ending : Ending

structure Response where
  status : Nat
  contentLength : Option Text
  body : Option Body

/-- The loop of `readBoundedResponseText`, after the chunks that were read. -/
def readChunks (maximum : Nat) (m : Messages) (ending : Ending) :
    Bytes → List Bytes → Except Stop Bytes
  | bytes, [] =>
    match ending with
    | .done => .ok bytes
    | .failed message => .error (.failure (m.readFailed message))
    | .pending => .error .pending
  | bytes, chunk :: chunks =>
    if maximum < bytes.length + chunk.length then .error (.failure m.sizeLimit)
    else readChunks maximum m ending (bytes ++ chunk) chunks

def decodeBody (bytes : Bytes) : Option Text :=
  (decodeUtf8 bytes).map fun s => if s.head? = some (Char.ofNat 0xfeff) then s.tail else s

/-- The declared length is no number, or too large. -/
def exceeds (declared : Text) (maximum : Nat) : Bool :=
  declared = [] || !declared.all isDecDigit || decide (maximum < ofDigits 10 declared)

def readBoundedResponseText (response : Response) (maximum : Nat) (m : Messages) :
    Except Stop Text := do
  throwIf (response.contentLength.any (exceeds · maximum) = true) (.failure m.sizeLimit)
  match response.body with
  | none => .error (.failure m.noBody)
  | some body =>
    let bytes ← readChunks maximum m body.ending [] body.chunks
    match decodeBody bytes with
    | some text => return text
    | none => .error (.failure m.notUtf8)

/-! ## Sessions -/

/-- Whether all addresses are asked for. -/
structure LookupOptions where
  all : Bool

/-- `createPinnedLookup`: in either form the callback gets the pinned endpoint. -/
def createPinnedLookup (endpoint : Endpoint) (options : LookupOptions) : List Endpoint :=
  if options.all then [⟨endpoint.address, endpoint.family⟩]
  else [⟨endpoint.address, endpoint.family⟩]

inductive FetchError where
  | stop (reason : Stop)
  | other (message : String)

/-- The client of one request: what it connects to comes from the lookup it is given. -/
structure HttpsClient where
  connections : (LookupOptions → List Endpoint) → List Endpoint
  only : ∀ lookup, ∀ endpoint ∈ connections lookup, ∃ options, endpoint ∈ lookup options
  outcome : Except FetchError Response

structure Options where
  kind : String
  /-- `none` is no integer. -/
  timeoutMs : Option Int
  maxResponseBytes : Option Int

structure Session where
  url : Url
  endpoint : Endpoint
  maxResponseBytes : Nat
  messages : Messages

def positive (value : Option Int) (message : String) : Except Stop Nat :=
  match value with
  | some n => if 1 ≤ n then .ok n.toNat else .error (.refusal message)
  | none => .error (.refusal message)

def createEgressSession (isIP : Text → Nat) (parsed : Option Url) (options : Options)
    (lookup : Lookup) : Except Stop Session := do
  let m := createErrorMessages options.kind
  let url ← assertHttpsUrl parsed m
  let _ ← positive options.timeoutMs "timeout must be a positive integer"
  let maxResponseBytes ← positive options.maxResponseBytes
    "response-size limit must be a positive integer"
  let endpoint ← resolvePublicEndpoint isIP m url lookup
  return ⟨url, endpoint, maxResponseBytes, m⟩

/-- What happens around one request: its headers, its client, whether the time is over, and the
second lookup. -/
structure Exchange where
  headers : List (Text × Text)
  client : HttpsClient
  aborted : Bool
  lookup : Lookup

structure Result where
  status : Nat
  ok : Bool
  text : Text
  endpoint : Endpoint

/-- What the header check of `assertConsistentHostHeaders` refuses. -/
def hasForeignHost (url : Url) (headers : List (Text × Text)) : Bool :=
  headers.any fun header => header.1.map Char.toLower = "host".toList && header.2 ≠ url.host

/-- What `fetchImpl` returns, or what is thrown in its place. -/
def Session.fetched (s : Session) (x : Exchange) : Except Stop Response :=
  match x.client.outcome with
  | .ok response => .ok response
  | .error (.stop reason) => .error reason
  | .error (.other message) =>
    if x.aborted then .error (.failure s.messages.timedOut)
    else .error (.failure (s.messages.requestFailed message))

def Session.request (isIP : Text → Nat) (s : Session) (x : Exchange) : Except Stop Result := do
  throwIf (hasForeignHost s.url x.headers = true) (.refusal s.messages.hostMismatch)
  let response ← s.fetched x
  let _ ← reresolvePinnedEndpoint isIP s.messages s.url s.endpoint x.lookup
  throwIf (300 ≤ response.status ∧ response.status < 400) (.failure s.messages.redirect)
  let text ← readBoundedResponseText response s.maxResponseBytes s.messages
  return ⟨response.status, decide (200 ≤ response.status ∧ response.status < 300), text, s.endpoint⟩

/-- All that the clients of the requests connect to. A foreign host header is refused before. -/
def Session.connections (s : Session) (exchanges : List Exchange) : List Endpoint :=
  exchanges.flatMap fun x =>
    if hasForeignHost s.url x.headers then []
    else x.client.connections (createPinnedLookup s.endpoint)

/-! ## What is safe -/

variable {isIP : Text → Nat} {m : Messages} {url : Url} {lookup : Lookup} {s : Session}

theorem acceptAnswer_ok {answer : Answer} {endpoint : Endpoint}
    (h : acceptAnswer isIP m answer = .ok endpoint) :
    endpoint.address = answer.address.getD [] ∧ isPublicAddress isIP endpoint.address = true := by
  unfold acceptAnswer at h
  simp only at h
  split at h
  · cases h
  · rename_i hnot
    rw [not_or, not_or, Bool.not_eq_false] at hnot
    obtain rfl := Except.ok.inj h
    exact ⟨rfl, hnot.2.2⟩

theorem resolvePublicAddresses_ok {answers : List Endpoint}
    (h : resolvePublicAddresses isIP m url lookup = .ok answers) :
    ∃ given, answersFor isIP m url.name lookup = .ok given ∧
      (∀ answer ∈ given, isPublicAddress isIP (answer.address.getD []) = true) ∧
      ∀ endpoint ∈ answers, isPublicAddress isIP endpoint.address = true ∧
        ∃ answer ∈ given, answer.address.getD [] = endpoint.address := by
  obtain ⟨given, hgiven, hmap⟩ := bind_ok.mp h
  refine ⟨given, hgiven, fun answer hanswer => ?_, fun endpoint hendpoint => ?_⟩
  · obtain ⟨endpoint, -, haccept⟩ := exists_of_mapM hmap answer hanswer
    obtain ⟨haddress, hpublic⟩ := acceptAnswer_ok haccept
    exact haddress ▸ hpublic
  · obtain ⟨answer, hanswer, haccept⟩ := mem_of_mapM hmap endpoint hendpoint
    obtain ⟨haddress, hpublic⟩ := acceptAnswer_ok haccept
    exact ⟨hpublic, answer, hanswer, haddress.symm⟩

theorem createEgressSession_ok {parsed : Option Url} {options : Options}
    (h : createEgressSession isIP parsed options lookup = .ok s) :
    isPublicAddress isIP s.endpoint.address = true ∧
      ∃ n ∈ options.maxResponseBytes, s.maxResponseBytes = n.toNat := by
  obtain ⟨url, -, h⟩ := bind_ok.mp h
  obtain ⟨_, -, h⟩ := bind_ok.mp h
  obtain ⟨bound, hbound, h⟩ := bind_ok.mp h
  obtain ⟨endpoint, hendpoint, h⟩ := bind_ok.mp h
  obtain rfl := Except.ok.inj h
  obtain ⟨answers, hanswers, hfirst⟩ := bind_ok.mp hendpoint
  obtain ⟨_, -, -, hall⟩ := resolvePublicAddresses_ok hanswers
  constructor
  · split at hfirst
    · obtain rfl := Except.ok.inj hfirst
      exact (hall _ List.mem_cons_self).1
    · cases hfirst
  · unfold positive at hbound
    split at hbound
    · rename_i n hn
      split at hbound
      · exact ⟨n, hn, (Except.ok.inj hbound).symm⟩
      · cases hbound
    · cases hbound

theorem mem_connections {exchanges : List Exchange} {endpoint : Endpoint}
    (h : endpoint ∈ s.connections exchanges) : endpoint = s.endpoint := by
  obtain ⟨x, -, hmem⟩ := List.mem_flatMap.mp h
  split at hmem
  · cases hmem
  · obtain ⟨options, hlookup⟩ := x.client.only _ endpoint hmem
    unfold createPinnedLookup at hlookup
    split at hlookup <;> exact List.mem_singleton.mp hlookup

theorem readChunks_ok {maximum : Nat} {ending : Ending} {chunks : List Bytes} {bytes read : Bytes}
    (hbytes : bytes.length ≤ maximum) (h : readChunks maximum m ending bytes chunks = .ok read) :
    read = bytes ++ chunks.flatten ∧ read.length ≤ maximum := by
  induction chunks generalizing bytes with
  | nil =>
    unfold readChunks at h
    cases ending with
    | done =>
      obtain rfl := Except.ok.inj h
      exact ⟨(List.append_nil _).symm, hbytes⟩
    | failed | pending => cases h
  | cons chunk chunks ih =>
    unfold readChunks at h
    split at h
    · cases h
    · rename_i hfits
      have hlength : (bytes ++ chunk).length ≤ maximum := by
        rw [List.length_append]
        omega
      obtain ⟨hread, hbound⟩ := ih hlength h
      refine ⟨?_, hbound⟩
      rw [hread, List.flatten_cons, List.append_assoc]

theorem readBoundedResponseText_ok {response : Response} {maximum : Nat} {text : Text}
    (h : readBoundedResponseText response maximum m = .ok text) :
    ∃ body, response.body = some body ∧ body.chunks.flatten.length ≤ maximum ∧
      decodeBody body.chunks.flatten = some text := by
  obtain ⟨_, -, h⟩ := bind_ok.mp h
  split at h
  · cases h
  · rename_i body hbody
    obtain ⟨bytes, hbytes, h⟩ := bind_ok.mp h
    obtain ⟨hread, hlength⟩ := readChunks_ok (Nat.zero_le _) hbytes
    rw [List.nil_append] at hread
    subst hread
    split at h
    · rename_i decoded hdecoded
      obtain rfl := Except.ok.inj h
      exact ⟨body, hbody, hlength, hdecoded⟩
    · cases h

/-- What holds of a request that returned a text. -/
structure Guarded (isIP : Text → Nat) (s : Session) (x : Exchange) (r : Result) : Prop where
  /-- The second resolution: all of it is public, and the pinned address is in it. -/
  resolved : ∃ given, answersFor isIP s.messages s.url.name x.lookup = .ok given ∧
    (∀ answer ∈ given, Public (answer.address.getD [])) ∧
    ∃ answer ∈ given, answer.address.getD [] = s.endpoint.address
  /-- The response is no redirect, and its body is not too large. -/
  response : ∃ response body, x.client.outcome = .ok response ∧ r.status = response.status ∧
    ¬ (300 ≤ response.status ∧ response.status < 400) ∧ response.body = some body ∧
    body.chunks.flatten.length ≤ s.maxResponseBytes ∧ decodeBody body.chunks.flatten = some r.text

theorem fetched_ok {x : Exchange} {response : Response} (h : s.fetched x = .ok response) :
    x.client.outcome = .ok response := by
  unfold Session.fetched at h
  split at h
  · rename_i houtcome
    rw [houtcome, Except.ok.inj h]
  · cases h
  · split at h <;> cases h

theorem request_guarded (hexact : Exact isIP) {x : Exchange} {r : Result}
    (h : s.request isIP x = .ok r) : Guarded isIP s x r := by
  obtain ⟨_, -, h⟩ := bind_ok.mp h
  obtain ⟨response, hresponse, h⟩ := bind_ok.mp h
  obtain ⟨_, hpinned, h⟩ := bind_ok.mp h
  obtain ⟨_, hredirect, h⟩ := bind_ok.mp h
  obtain ⟨text, htext, h⟩ := bind_ok.mp h
  obtain rfl := Except.ok.inj h
  obtain ⟨answers, hanswers, hpinned⟩ := bind_ok.mp hpinned
  obtain ⟨_, hmem, -⟩ := bind_ok.mp hpinned
  rw [throwIf_ok, not_not] at hmem
  obtain ⟨given, hgiven, hpublic, hall⟩ := resolvePublicAddresses_ok hanswers
  obtain ⟨body, hbody, hlength, hdecoded⟩ := readBoundedResponseText_ok htext
  refine ⟨⟨given, hgiven, fun answer hanswer => ?_, (hall _ hmem).2⟩, response, body,
    fetched_ok hresponse, rfl, throwIf_ok.mp hredirect, hbody, hlength, hdecoded⟩
  exact (isPublicAddress_iff hexact _).mp (hpublic answer hanswer)

open Classical in
/-- What `isIP` is taken to be. -/
noncomputable def recognise (s : Text) : Nat :=
  if ∃ q : IPv4, s = q.text then 4 else if ∃ a : IPv6, s = a.text then 6 else 0

/-- No text spells addresses of both families: one of them has a colon. -/
theorem colon_mem_text (a : IPv6) : ':' ∈ a.text := by
  obtain ⟨left, right, tail, hcount⟩ := a
  cases right with
  | some groups => exact List.mem_append_right _ List.mem_cons_self
  | none =>
    match left, hcount with
    | [], hcount => cases tail <;> cases hcount
    | g :: left, hcount =>
      have hne : left.map Subtype.val ++ (tail.map IPv4.text).toList ≠ [] := by
        intro hnil
        obtain ⟨hleft, htail⟩ := List.append_eq_nil_iff.mp hnil
        rw [List.map_eq_nil_iff] at hleft
        subst hleft
        cases tail with
        | none => cases hcount
        | some q => cases htail
      have htext : IPv6.text ⟨g :: left, none, tail, hcount⟩ = _ := colons_cons hne
      rw [htext]
      exact List.mem_append_right _ List.mem_cons_self

theorem recognise_exact : Exact recognise where
  ipv4 := by
    intro s
    unfold recognise
    split
    · rename_i h
      exact ⟨fun _ => h, fun _ => rfl⟩
    · rename_i h
      refine ⟨fun heq => ?_, fun hq => absurd hq h⟩
      split at heq <;> cases heq
  ipv6 := by
    intro s
    unfold recognise
    split
    · rename_i h
      obtain ⟨q, rfl⟩ := h
      refine ⟨fun heq => (by cases heq), ?_⟩
      rintro ⟨a, heq⟩
      have hcolon := colon_mem_text a
      rw [← heq] at hcolon
      exact absurd rfl (toLower_of_decDigit (IPv4.mem_text hcolon)).2
    · split
      · rename_i h
        exact ⟨fun _ => h, fun _ => rfl⟩
      · rename_i h
        exact ⟨fun heq => (by cases heq), fun ha => absurd ha h⟩

/-- `8.8.4.4` -/
def publicIPv4 : IPv4 where
  a := ⟨['8'], by decide⟩
  b := ⟨['8'], by decide⟩
  c := ⟨['4'], by decide⟩
  d := ⟨['4'], by decide⟩

def publicUrl : Url where
  protocol := "https:".toList
  username := []
  password := []
  hostname := publicIPv4.text
  host := publicIPv4.text

end App20.Egress
