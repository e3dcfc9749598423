import Mathlib.Data.List.DropRight
import RioGram.Go.Url
import RioGram.Utils.Base64

/-!
# The WSS reverse proxy

The server that stands between a browser and Telegram's WebSocket endpoints: the first segment of the
path says where a request goes, the rest of the path and the query go with it.

`serveHTTP` is the handler, up to the request it sends upstream.  What `net/http` and the WebSocket
library do with that request, and with the answer, is left out; whether the library accepts the
client's handshake comes from outside.

* `serveHTTP_upstream` — a request goes upstream only with all checks passed, and to the host that
  was checked.
-/

namespace RioGram

open Wire Go

namespace Wss

/-! ## Requests -/

/-- `http.Header`: the values of every key, which is in canonical form. -/
abbrev Header := String → List Bytes

/-- `http.Header{}`. -/
def Header.empty : Header := fun _ => []

/-- `Header.Get`: the first value. -/
def Header.get (header : Header) (key : String) : Bytes := (header key).headD []

/-- `Header.Set`. -/
def Header.set (header : Header) (key : String) (value : Bytes) : Header :=
  Function.update header key [value]

/-- `http.Request`, with the parts of its URL that are used. -/
structure Request where
  method : Bytes
  path : Bytes
  rawQuery : Bytes
  header : Header
  body : Bytes := []

/-- A request that is sent upstream. -/
structure UpstreamRequest where
  method : Bytes
  url : URL
  header : Header
  body : Bytes

/-- `Config`. -/
structure Config where
  authToken : Bytes := []
  upstreamOriginHost : Bytes := []

/-! ## The target -/

/-- Simple case folding, as far as it leads to ASCII: two letters beyond ASCII, the long s and the Kelvin
sign, fold to `s` and `k`. -/
def foldCase : Bytes → Bytes
  | 0xc5 :: 0xbf :: s => 115 :: foldCase s
  | 0xe2 :: 0x84 :: 0xaa :: s => 107 :: foldCase s
  | c :: s => toLower c :: foldCase s
  | [] => []

/-- The class `[a-z0-9\-]`. -/
def isLabelByte (c : UInt8) : Bool := (97 ≤ c && c ≤ 122) || (48 ≤ c && c ≤ 57) || c = 45

/-- `telegramHostPattern`: a label, and one of two domains behind it. -/
def telegramHostPattern (host : Bytes) : Bool :=
  let host := foldCase host
  before 46 host ≠ [] && (before 46 host).all isLabelByte &&
    (host.dropWhile (· ≠ 46) = utf8 ".telegram.org" ||
      host.dropWhile (· ≠ 46) = utf8 ".web.telegram.org")

/-- `strings.Trim(path, "/")`. -/
def trimSlashes (path : Bytes) : Bytes := (path.dropWhile (· = 47)).rdropWhile (· = 47)

/-- The path of the endpoint. -/
def apiws : Bytes := utf8 "/apiws"

/-- `parseTargetPath`. -/
def parseTargetPath (path : Bytes) : Option (Bytes × Bytes) :=
  let path := trimSlashes path
  if path = [] then none
  else
    let host := before 47 path
    if ¬ telegramHostPattern host then none
    else some (host, if after 47 path = [] then apiws else 47 :: after 47 path)

/-! ## Handlers -/

/-- `isWebSocketUpgrade`. -/
def isWebSocketUpgrade (r : Request) : Bool := foldCase (r.header.get "Upgrade") = utf8 "websocket"

/-- `isAuthorized`. -/
def isAuthorized (cfg : Config) (r : Request) : Bool :=
  let auth := r.header.get "Authorization"
  if (utf8 "Bearer ").isPrefixOf auth then auth.drop 7 = cfg.authToken
  else r.header.get "X-Riogram-Proxy-Token" = cfg.authToken

/-- What is done with a request. -/
inductive Outcome where
  | health
  | noContent
  | forbidden (path : Bytes)
  | unauthorized
  | badRequest
  | upgradeFailed
  | dialFailed
  | http (request : UpstreamRequest)
  | webSocket (request : UpstreamRequest)

/-- The request that is sent upstream. -/
def Outcome.upstream : Outcome → Option UpstreamRequest
  | .http request => some request
  | .webSocket request => some request
  | _ => none

/-- The URL that both handlers build. -/
def targetURL (scheme : Bytes) (r : Request) (targetHost targetPath : Bytes) : Bytes :=
  schemePrefix scheme ++ targetHost ++ targetPath ++ if r.rawQuery ≠ [] then 63 :: r.rawQuery else []

/-- The value of the `Origin` header. -/
def origin (cfg : Config) (targetHost : Bytes) : Bytes :=
  utf8 "https://" ++ if cfg.upstreamOriginHost ≠ [] then cfg.upstreamOriginHost else targetHost

/-- `proxyHTTP`: the client's header goes upstream, with two of its fields set. -/
def proxyHTTP (cfg : Config) (r : Request) (targetHost targetPath : Bytes) : Outcome :=
  match parse (targetURL (utf8 "https") r targetHost targetPath) with
  | none => .badRequest
  | some url =>
      .http
        { method := r.method
          url
          header := (r.header.set "Host" targetHost).set "Origin" (origin cfg targetHost)
          body := r.body }

/-- `proxyWebSocket`: the header is a new one. -/
def proxyWebSocket (upgrades : Request → Bool) (cfg : Config) (r : Request)
    (targetHost targetPath : Bytes) : Outcome :=
  if ¬ upgrades r then .upgradeFailed
  else match parse (targetURL (utf8 "wss") r targetHost targetPath) with
  | none => .dialFailed
  | some url =>
      if url.user.isSome then .dialFailed
      else
        .webSocket
          { method := utf8 "GET"
            url
            header := ((Header.empty.set "Host" targetHost).set "Sec-Websocket-Protocol"
              (utf8 "binary")).set "Origin" (origin cfg targetHost)
            body := [] }

/-- `strings.TrimPrefix(path, "/")`. -/
def trimPrefix : Bytes → Bytes
  | [] => []
  | c :: path => if c = 47 then path else c :: path

/-- `ServeHTTP`. -/
def serveHTTP (upgrades : Request → Bool) (cfg : Config) (r : Request) : Outcome :=
  let path := trimPrefix r.path
  if path = [] ∨ path = utf8 "health" then .health
  else if r.method = utf8 "OPTIONS" then .noContent
  else match parseTargetPath path with
  | none => .forbidden path
  | some (targetHost, targetPath) =>
      if cfg.authToken ≠ [] ∧ ¬ isAuthorized cfg r then .unauthorized
      else if ¬ isWebSocketUpgrade r then proxyHTTP cfg r targetHost targetPath
      else proxyWebSocket upgrades cfg r targetHost targetPath

/-! ## Hosts that match -/

lemma mem_foldCase {s : Bytes} {c : UInt8} (h : c ∈ s) : 128 ≤ c ∨ toLower c ∈ foldCase s := by
  induction s using foldCase.induct with
  | case1 s ih =>
      rcases List.mem_cons.mp h with rfl | h
      · exact .inl (by decide)
      rcases List.mem_cons.mp h with rfl | h
      · exact .inl (by decide)
      · exact (ih h).imp id fun h => by simp [foldCase, h]
  | case2 s ih =>
      rcases List.mem_cons.mp h with rfl | h
      · exact .inl (by decide)
      rcases List.mem_cons.mp h with rfl | h
      · exact .inl (by decide)
      rcases List.mem_cons.mp h with rfl | h
      · exact .inl (by decide)
      · exact (ih h).imp id fun h => by simp [foldCase, h]
  | case3 c s _ _ ih =>
      have hcons : foldCase (c :: s) = toLower c :: foldCase s := by
        rw [foldCase.eq_def]
        split <;> simp_all
      rw [hcons]
      rcases List.mem_cons.mp h with rfl | h
      · exact .inr List.mem_cons_self
      · exact (ih h).imp id fun h => List.mem_cons_of_mem _ h
  | case4 => exact nomatch h

lemma isPlain_of_toLower {c : UInt8} (h : isLabelByte (toLower c) ∨ toLower c = 46) : IsPlain c := by
  by_cases hupper : 65 ≤ c ∧ c ≤ 90
  · exact .inr (.inl (by simp [isAlphanumeric, hupper]))
  · have hlower : toLower c = c := by simpa [toLower] using hupper
    rw [hlower] at h
    rcases h with h | h
    · simp only [isLabelByte, Bool.or_eq_true, decide_eq_true_eq, Bool.and_eq_true] at h
      rcases h with (h | h) | h
      · exact .inr (.inl (by simp [isAlphanumeric, h]))
      · exact .inr (.inl (by simp [isAlphanumeric, h]))
      · exact .inr (.inr (.inl h))
    · exact .inr (.inr (.inr h))

/-- **A host that matches** has nothing in it that ends an authority, or has a meaning in it. -/
lemma telegramHostPattern_plain {host : Bytes} (h : telegramHostPattern host) :
    host ≠ [] ∧ ∀ c ∈ host, IsPlain c := by
  simp only [telegramHostPattern, Bool.and_eq_true, Bool.or_eq_true, decide_eq_true_eq,
    List.all_eq_true] at h
  rcases h with ⟨⟨hne, hlabel⟩, hdomain⟩
  constructor
  · rintro rfl
    exact hne rfl
  · intro c hc
    rcases mem_foldCase hc with hc | hc
    · exact .inl hc
    · apply isPlain_of_toLower
      rw [← List.takeWhile_append_dropWhile (p := (· ≠ 46)) (l := foldCase host)] at hc
      rcases List.mem_append.mp hc with hc | hc
      · exact .inl (hlabel _ hc)
      · have hbytes : ∀ d ∈ utf8 ".telegram.org" ++ utf8 ".web.telegram.org",
            isLabelByte d ∨ d = 46 := by decide +kernel
        apply hbytes
        rcases hdomain with hdomain | hdomain <;> rw [hdomain] at hc <;> simp [hc]

lemma parseTargetPath_some {path host targetPath : Bytes}
    (h : parseTargetPath path = some (host, targetPath)) :
    host = before 47 (trimSlashes path) ∧ telegramHostPattern host ∧
    targetPath = (if after 47 (trimSlashes path) = [] then apiws
      else 47 :: after 47 (trimSlashes path)) := by
  simp only [parseTargetPath] at h
  split_ifs at h with hempty hhost
  all_goals
    cases h
    exact ⟨rfl, hhost, by simp [*]⟩

/-! ## Where requests go -/

/-- The request carries the token. -/
def CarriesToken (r : Request) (token : Bytes) : Prop :=
  r.header.get "Authorization" = utf8 "Bearer " ++ token ∨
  r.header.get "X-Riogram-Proxy-Token" = token

lemma isAuthorized_carries {cfg : Config} {r : Request} (h : isAuthorized cfg r) :
    CarriesToken r cfg.authToken := by
  simp only [isAuthorized] at h
  split_ifs at h with hbearer
  · rw [List.isPrefixOf_iff_prefix] at hbearer
    rcases hbearer with ⟨token, htoken⟩
    rw [← htoken] at h
    rw [CarriesToken, ← htoken]
    refine .inl ?_
    have hdrop : (utf8 "Bearer " ++ token).drop 7 = token := List.drop_left' rfl
    rw [hdrop, decide_eq_true_eq] at h
    rw [h]
  · exact .inr (by simpa using h)

/-- The URL that is built is parsed with the host as its authority. -/
lemma parse_targetURL {scheme host targetPath : Bytes} (hscheme : scheme ≠ [])
    (hlower : ∀ c ∈ scheme, 97 ≤ c ∧ c ≤ 122) {path : Bytes}
    (htarget : parseTargetPath path = some (host, targetPath)) {r : Request} {url : URL}
    (h : parse (targetURL scheme r host targetPath) = some url) :
    url.user = none ∧ url.host = host := by
  rcases parseTargetPath_some htarget with ⟨-, hpattern, hpath⟩
  obtain ⟨tail, htail⟩ : ∃ tail, targetURL scheme r host targetPath =
      schemePrefix scheme ++ host ++ 47 :: tail := by
    rw [targetURL, hpath]
    split_ifs
    all_goals exact ⟨_, by simp [apiws, utf8]; rfl⟩
  rw [htail, parse_absolute hscheme hlower (telegramHostPattern_plain hpattern).2] at h
  split_ifs at h
  rcases Option.bind_eq_some_iff.mp h with ⟨⟨p, rawPath⟩, -, h⟩
  rcases Option.map_eq_some_iff.mp h with ⟨fragment, -, rfl⟩
  exact ⟨rfl, rfl⟩

lemma proxyHTTP_upstream {cfg : Config} {r : Request} {targetHost targetPath : Bytes}
    {request : UpstreamRequest}
    (h : (proxyHTTP cfg r targetHost targetPath).upstream = some request) :
    parse (targetURL (utf8 "https") r targetHost targetPath) = some request.url ∧
    request.header = (r.header.set "Host" targetHost).set "Origin" (origin cfg targetHost) := by
  simp only [proxyHTTP] at h
  split at h
  · exact nomatch h
  next url hurl =>
    cases h
    exact ⟨hurl, rfl⟩

lemma proxyWebSocket_upstream {upgrades : Request → Bool} {cfg : Config} {r : Request}
    {targetHost targetPath : Bytes} {request : UpstreamRequest}
    (h : (proxyWebSocket upgrades cfg r targetHost targetPath).upstream = some request) :
    parse (targetURL (utf8 "wss") r targetHost targetPath) = some request.url ∧
    request.header = ((Header.empty.set "Host" targetHost).set "Sec-Websocket-Protocol"
      (utf8 "binary")).set "Origin" (origin cfg targetHost) := by
  simp only [proxyWebSocket] at h
  split_ifs at h
  · split at h
    · exact nomatch h
    next url hurl =>
      split_ifs at h
      · exact nomatch h
      · cases h
        exact ⟨hurl, rfl⟩
  · exact nomatch h

lemma proxyHTTP_of_parse {cfg : Config} {r : Request} {targetHost targetPath : Bytes} {url : URL}
    (h : parse (targetURL (utf8 "https") r targetHost targetPath) = some url) :
    ∃ request, (proxyHTTP cfg r targetHost targetPath).upstream = some request ∧ request.url = url := by
  simp [proxyHTTP, h, Outcome.upstream]

lemma proxyWebSocket_of_parse {upgrades : Request → Bool} {cfg : Config} {r : Request}
    {targetHost targetPath : Bytes} {url : URL} (hupgrades : upgrades r)
    (h : parse (targetURL (utf8 "wss") r targetHost targetPath) = some url) (huser : url.user = none) :
    ∃ request, (proxyWebSocket upgrades cfg r targetHost targetPath).upstream = some request ∧
      request.url = url := by
  simp [proxyWebSocket, hupgrades, h, huser, Outcome.upstream]

/-- What has been checked of a request that is handed to one of the two handlers. -/
lemma serveHTTP_cases {upgrades : Request → Bool} {cfg : Config} {r : Request}
    {request : UpstreamRequest} (h : (serveHTTP upgrades cfg r).upstream = some request) :
    trimPrefix r.path ≠ [] ∧ trimPrefix r.path ≠ utf8 "health" ∧ r.method ≠ utf8 "OPTIONS" ∧
    (cfg.authToken ≠ [] → isAuthorized cfg r) ∧
    ∃ targetHost targetPath, parseTargetPath (trimPrefix r.path) = some (targetHost, targetPath) ∧
      serveHTTP upgrades cfg r =
        if ¬ isWebSocketUpgrade r then proxyHTTP cfg r targetHost targetPath
        else proxyWebSocket upgrades cfg r targetHost targetPath := by
  simp only [serveHTTP] at h ⊢
  by_cases hhealth : trimPrefix r.path = [] ∨ trimPrefix r.path = utf8 "health"
  · rw [if_pos hhealth] at h
    exact nomatch h
  by_cases hoptions : r.method = utf8 "OPTIONS"
  · rw [if_neg hhealth, if_pos hoptions] at h
    exact nomatch h
  rw [if_neg hhealth, if_neg hoptions] at h ⊢
  rcases htarget : parseTargetPath (trimPrefix r.path) with _ | ⟨targetHost, targetPath⟩
  · rw [htarget] at h
    exact nomatch h
  simp only [htarget] at h ⊢
  by_cases hauth : cfg.authToken ≠ [] ∧ ¬ isAuthorized cfg r
  · rw [if_pos hauth] at h
    exact nomatch h
  rw [if_neg hauth]
  refine ⟨fun h => hhealth (.inl h), fun h => hhealth (.inr h), hoptions, ?_, targetHost, targetPath,
    rfl, rfl⟩
  intro htoken
  exact not_not.mp fun h => hauth ⟨htoken, h⟩

/-- **Only Telegram is reached**: a request goes upstream only if its path is neither empty nor
`health`, it is no `OPTIONS` request, the first segment of its path matches the host pattern, and it
carries the token if there is one; and what a URL parser reads as the authority of the URL that is
built is that first segment. -/
theorem serveHTTP_upstream {upgrades : Request → Bool} {cfg : Config} {r : Request}
    {request : UpstreamRequest} (h : (serveHTTP upgrades cfg r).upstream = some request) :
    trimPrefix r.path ≠ [] ∧ trimPrefix r.path ≠ utf8 "health" ∧ r.method ≠ utf8 "OPTIONS" ∧
    telegramHostPattern (before 47 (trimSlashes r.path)) ∧
    (cfg.authToken ≠ [] → CarriesToken r cfg.authToken) ∧
    request.url.user = none ∧ request.url.host = before 47 (trimSlashes r.path) := by
  rcases serveHTTP_cases h with ⟨hempty, hhealth, hoptions, hauth, targetHost, targetPath, htarget,
    hserve⟩
  have htrim : trimSlashes (trimPrefix r.path) = trimSlashes r.path := by
    rcases hpath : r.path with _ | ⟨c, path⟩
    · rfl
    · simp only [trimPrefix]
      split_ifs with hc
      · simp [trimSlashes, hc]
      · rfl
  rcases parseTargetPath_some htarget with ⟨hhost, hpattern, -⟩
  rw [htrim] at hhost
  rw [hserve] at h
  have hurl : request.url.user = none ∧ request.url.host = targetHost := by
    split_ifs at h with hupgrade
    · exact parse_targetURL (by decide) (by decide +kernel) htarget (proxyWebSocket_upstream h).1
    · exact parse_targetURL (by decide) (by decide +kernel) htarget (proxyHTTP_upstream h).1
  refine ⟨hempty, hhealth, hoptions, hhost ▸ hpattern, ?_, hurl.1, hhost ▸ hurl.2⟩
  intro htoken
  exact isAuthorized_carries (hauth htoken)

/-- A request for an endpoint, with a token. -/
def tokenRequest (upgrade : Bytes) (key : String) (value : Bytes) : Request where
  method := utf8 "GET"
  path := utf8 "/venus.web.telegram.org/apiws"
  rawQuery := []
  header := (Header.empty.set "Upgrade" upgrade).set key value

/-- A request with the token of the configuration goes upstream. -/
theorem serveHTTP_upstream_token : ∃ request,
    (serveHTTP (fun _ => true) { authToken := utf8 "s3cret" }
      (tokenRequest (utf8 "websocket") "X-Riogram-Proxy-Token" (utf8 "s3cret"))).upstream =
        some request ∧
    request.url.host = before 47 (trimSlashes (utf8 "/venus.web.telegram.org/apiws")) := by
  refine ⟨_, rfl, ?_⟩
  have h : (serveHTTP (fun _ => true) { authToken := utf8 "s3cret" }
    (tokenRequest (utf8 "websocket") "X-Riogram-Proxy-Token" (utf8 "s3cret"))).upstream =
      some _ := rfl
  exact (serveHTTP_upstream h).2.2.2.2.2.2

end Wss

end RioGram
