import RioGram.Utils.Base64

/-!
# Proxies and MTProto proxy secrets

`ProxySecret` is the binary secret of an MTProto proxy: 16 bytes, optionally behind a mode byte
(`0xdd` for random padding, `0xee` for TLS emulation, followed by the masking domain).
Secrets come in as links, in `fromLink`, and `fromBinary` decides which of them are let through.

`createProxy` makes a proxy of what a request carries.
-/

namespace RioGram

open Wire

/-- `mtproto::ProxySecret`. -/
structure ProxySecret where
  raw : Bytes := []
  deriving DecidableEq, Repr

namespace ProxySecret

/-- `MAX_DOMAIN_LENGTH`: small enough not to overflow the length of a TLS hello. -/
def maxDomainLength : ℕ := 182

def getProxySecret (secret : ProxySecret) : Bytes :=
  if secret.raw.length ≥ 17 then (secret.raw.drop 1).take 16 else secret.raw

def useRandomPadding (secret : ProxySecret) : Bool := secret.raw.length ≥ 17

def emulateTls (secret : ProxySecret) : Bool :=
  secret.raw.length ≥ 17 && secret.raw.head? == some 0xee

/-- `get_domain`, which is called for a secret that emulates TLS. -/
def getDomain (secret : ProxySecret) : Bytes := secret.raw.drop 17

/-- The three shapes `from_binary` lets through. -/
def accepted (raw : Bytes) : Bool :=
  raw.length == 16 || (raw.length == 17 && raw.head? == some 0xdd) ||
    (raw.length ≥ 18 && raw.head? == some 0xee)

/-- `from_binary`. -/
def fromBinary (raw : Bytes) (truncateIfNeeded : Bool) : Except String ProxySecret :=
  if raw.length > 17 + maxDomainLength && !truncateIfNeeded then .error "Too long secret"
  else
    let raw := raw.take (17 + maxDomainLength)
    if accepted raw then .ok ⟨raw⟩
    else if raw.length < 16 then .error "Wrong proxy secret"
    else .error "Unsupported proxy secret"

/-- `from_link`. -/
def fromLink (encoded : Bytes) (truncateIfNeeded : Bool) : Except String ProxySecret :=
  match hexDecode encoded <|> base64Decode true encoded <|> base64Decode false encoded with
  | none => .error "Wrong proxy secret"
  | some raw => fromBinary raw truncateIfNeeded

end ProxySecret

/-- `Proxy::Type`. -/
inductive ProxyType where
  | none | socks5 | mtproto | httpTcp | httpCaching
  deriving DecidableEq, Repr

/-- `Proxy`; the default is the empty proxy. -/
structure Proxy where
  type : ProxyType := .none
  server : String := ""
  port : ℕ := 0
  user : String := ""
  password : String := ""
  secret : ProxySecret := {}
  deriving DecidableEq, Repr

namespace Proxy

def useProxy (proxy : Proxy) : Bool := proxy.type != .none

def useSocks5Proxy (proxy : Proxy) : Bool := proxy.type == .socks5

def useMtprotoProxy (proxy : Proxy) : Bool := proxy.type == .mtproto

def useHttpTcpProxy (proxy : Proxy) : Bool := proxy.type == .httpTcp

def useHttpCachingProxy (proxy : Proxy) : Bool := proxy.type == .httpCaching

end Proxy

/-! ## Proxies in requests -/

/-- `td_api::ProxyType`. -/
inductive InputProxyType where
  | socks5 (username password : String)
  | http (username password : String) (httpOnly : Bool)
  | mtproto (secret : String)
  deriving DecidableEq, Repr

/-- `td_api::proxy`. -/
structure InputProxy where
  server : String
  port : ℤ
  type : Option InputProxyType
  deriving DecidableEq, Repr

namespace Proxy

/-- `create_proxy`; what can be a `String` is encoded in UTF-8. -/
def createProxy : Option InputProxy → Except String Proxy
  | none => .error "Proxy must be non-empty"
  | some ⟨_, _, none⟩ => .error "Proxy type must be non-empty"
  | some ⟨server, port, some type⟩ =>
      if server = "" then .error "Server name must be non-empty"
      else if server.utf8ByteSize > 255 then .error "Server name is too long"
      else if port ≤ 0 ∨ port > 65535 then .error "Wrong port number"
      else match type with
      | .socks5 user password =>
          .ok { type := .socks5, server, port := port.toNat, user, password }
      | .http user password true =>
          .ok { type := .httpCaching, server, port := port.toNat, user, password }
      | .http user password false =>
          .ok { type := .httpTcp, server, port := port.toNat, user, password }
      | .mtproto secret => do
          let secret ← ProxySecret.fromLink (utf8 secret) false
          return { type := .mtproto, server, port := port.toNat, secret }

/-- A proxy that is created is not the empty one. -/
lemma createProxy_useProxy {input : Option InputProxy} {proxy : Proxy}
    (h : createProxy input = .ok proxy) : proxy.useProxy := by
  rcases input with _ | ⟨server, port, _ | type⟩
  · exact nomatch h
  · exact nomatch h
  · simp only [createProxy] at h
    split_ifs at h
    cases type with
    | socks5 user password =>
        cases h
        rfl
    | http user password httpOnly =>
        cases httpOnly <;> cases h <;> rfl
    | mtproto secret =>
        cases hsecret : ProxySecret.fromLink (utf8 secret) false with
        | error e => simp [hsecret] at h
        | ok secret =>
            simp only [hsecret] at h
            cases h
            rfl

end Proxy

end RioGram
