import RioGram.Wss.Proxy

/-!
# The token of the proxy

A client shows the token of the proxy in one of two header fields.  Telegram has no business with it:
what is sent upstream should not depend on how it was shown, let alone contain it.

`serveHTTP_hidesToken_iff` — this holds of WebSocket connections, whose header is a new one, and of
no other request, whose header is passed on.
-/

namespace RioGram

open Wire Go

namespace Wss

/-- The header fields that can show the token. -/
def tokenKeys : List String := ["Authorization", "X-Riogram-Proxy-Token"]

/-- Requests that differ at most in how they show the token. -/
def SameButToken (r r' : Request) : Prop :=
  r'.method = r.method ∧ r'.path = r.path ∧ r'.rawQuery = r.rawQuery ∧ r'.body = r.body ∧
  ∀ key, key ∉ tokenKeys → r'.header key = r.header key

/-- The same request is sent upstream however the token is shown, and the token is in none of the fields
of its header that can show it. -/
def HidesToken (upgrades : Request → Bool) (cfg : Config) (r : Request) (request : UpstreamRequest) :
    Prop :=
  (∀ r', SameButToken r r' → isAuthorized cfg r' →
    (serveHTTP upgrades cfg r').upstream = some request) ∧
  ∀ key ∈ tokenKeys, ∀ value ∈ request.header key, ¬ cfg.authToken <:+: value

lemma Header.get_mem {header : Header} {key : String} {value : Bytes} (h : header.get key = value)
    (hvalue : value ≠ []) : value ∈ header key := by
  rcases hvalues : header key with _ | ⟨first, rest⟩
  · rw [Header.get, hvalues] at h
    exact absurd h.symm hvalue
  · rw [Header.get, hvalues] at h
    exact List.mem_cons.mpr (.inl h.symm)

lemma Header.set_of_ne {header : Header} {key other : String} (h : other ≠ key) (value : Bytes) :
    header.set key value other = header other :=
  Function.update_of_ne h _ _

/-- A header that carries the token has it in one of the two fields. -/
lemma CarriesToken.exists_mem {r : Request} {token : Bytes} (h : CarriesToken r token)
    (htoken : token ≠ []) : ∃ key ∈ tokenKeys, ∃ value ∈ r.header key, token <:+: value := by
  rcases h with h | h
  · refine ⟨"Authorization", by simp [tokenKeys], utf8 "Bearer " ++ token, ?_, ?_⟩
    · exact Header.get_mem h (by simp [htoken])
    · exact ⟨utf8 "Bearer ", [], by simp⟩
  · refine ⟨"X-Riogram-Proxy-Token", by simp [tokenKeys], token, ?_, List.infix_rfl⟩
    exact Header.get_mem h htoken

/-- What is passed on of a header field that can show the token. -/
lemma proxyHTTP_header {cfg : Config} {r : Request} {targetHost targetPath : Bytes}
    {request : UpstreamRequest} (h : (proxyHTTP cfg r targetHost targetPath).upstream = some request)
    {key : String} (hkey : key ∈ tokenKeys) : request.header key = r.header key := by
  rw [(proxyHTTP_upstream h).2]
  have hkeys : ∀ key ∈ tokenKeys, key ≠ "Origin" ∧ key ≠ "Host" := by decide
  rw [Header.set_of_ne (hkeys key hkey).1, Header.set_of_ne (hkeys key hkey).2]

lemma proxyWebSocket_header {upgrades : Request → Bool} {cfg : Config} {r : Request}
    {targetHost targetPath : Bytes} {request : UpstreamRequest}
    (h : (proxyWebSocket upgrades cfg r targetHost targetPath).upstream = some request)
    {key : String} (hkey : key ∈ tokenKeys) : request.header key = [] := by
  rw [(proxyWebSocket_upstream h).2]
  have hkeys : ∀ key ∈ tokenKeys, key ≠ "Origin" ∧ key ≠ "Sec-Websocket-Protocol" ∧ key ≠ "Host" := by
    decide
  rw [Header.set_of_ne (hkeys key hkey).1, Header.set_of_ne (hkeys key hkey).2.1,
    Header.set_of_ne (hkeys key hkey).2.2]
  rfl

lemma SameButToken.isWebSocketUpgrade {r r' : Request} (h : SameButToken r r') :
    isWebSocketUpgrade r' = isWebSocketUpgrade r := by
  have hheader := h.2.2.2.2 "Upgrade" (by decide)
  rw [Wss.isWebSocketUpgrade, Wss.isWebSocketUpgrade, Header.get, Header.get, hheader]

/-- **The token is hidden** from upstream exactly if the request asks for a WebSocket.  The library that
accepts handshakes does not look at how the token is shown. -/
theorem serveHTTP_hidesToken_iff {upgrades : Request → Bool}
    (hupgrades : ∀ r r', SameButToken r r' → upgrades r' = upgrades r) {cfg : Config}
    (htoken : cfg.authToken ≠ []) {r : Request} {request : UpstreamRequest}
    (h : (serveHTTP upgrades cfg r).upstream = some request) :
    HidesToken upgrades cfg r request ↔ isWebSocketUpgrade r := by
  rcases serveHTTP_cases h with ⟨hempty, hhealth, hoptions, hauth, targetHost, targetPath, htarget,
    hserve⟩
  by_cases hupgrade : isWebSocketUpgrade r
  · rw [hserve, if_neg (not_not.mpr hupgrade)] at h
    refine iff_of_true ⟨?_, ?_⟩ hupgrade
    · rintro r' hsame hauth'
      rcases hsame with ⟨hmethod, hpath, hquery, hbody, hheader⟩
      have hupgrade' : isWebSocketUpgrade r' = true :=
        (SameButToken.isWebSocketUpgrade ⟨hmethod, hpath, hquery, hbody, hheader⟩).trans hupgrade
      have hsocket : proxyWebSocket upgrades cfg r' targetHost targetPath =
          proxyWebSocket upgrades cfg r targetHost targetPath := by
        simp only [proxyWebSocket, targetURL, hquery,
          hupgrades r r' ⟨hmethod, hpath, hquery, hbody, hheader⟩]
      have hserve' : serveHTTP upgrades cfg r' =
          proxyWebSocket upgrades cfg r targetHost targetPath := by
        simp [serveHTTP, hpath, hempty, hhealth, hmethod, hoptions, htarget, hauth', hupgrade', hsocket]
      rw [hserve']
      exact h
    · intro key hkey value hvalue
      rw [proxyWebSocket_header h hkey] at hvalue
      cases hvalue
  · rw [hserve, if_pos hupgrade] at h
    refine iff_of_false ?_ hupgrade
    rintro ⟨-, hhidden⟩
    rcases (isAuthorized_carries (hauth htoken)).exists_mem htoken with ⟨key, hkey, value, hvalue, hin⟩
    rw [← proxyHTTP_header h hkey] at hvalue
    exact hhidden key hkey value hvalue hin

/-- A WebSocket connection does not give the token away. -/
theorem webSocket_hidesToken : ∃ request,
    HidesToken (fun _ => true) { authToken := utf8 "s3cret" }
      (tokenRequest (utf8 "websocket") "X-Riogram-Proxy-Token" (utf8 "s3cret")) request := by
  have htoken : ({ authToken := utf8 "s3cret" } : Config).authToken ≠ [] := by decide
  have h : (serveHTTP (fun _ => true) { authToken := utf8 "s3cret" }
    (tokenRequest (utf8 "websocket") "X-Riogram-Proxy-Token" (utf8 "s3cret"))).upstream =
      some _ := rfl
  exact ⟨_, (serveHTTP_hidesToken_iff (fun _ _ _ => rfl) htoken h).mpr rfl⟩

/-- Any other request is sent upstream with the token as it was shown. -/
theorem http_shows_token : ∃ request request',
    (serveHTTP (fun _ => true) { authToken := utf8 "s3cret" }
      (tokenRequest [] "X-Riogram-Proxy-Token" (utf8 "s3cret"))).upstream = some request ∧
    (serveHTTP (fun _ => true) { authToken := utf8 "s3cret" }
      (tokenRequest [] "Authorization" (utf8 "Bearer s3cret"))).upstream = some request' ∧
    request.header "X-Riogram-Proxy-Token" = [utf8 "s3cret"] ∧
    request'.header "X-Riogram-Proxy-Token" = [] ∧
    request'.header "Authorization" = [utf8 "Bearer s3cret"] :=
  ⟨_, _, rfl, rfl, rfl, rfl, rfl⟩

end Wss

end RioGram
