import Mathlib.Data.Int.Notation
import Mathlib.Data.List.Basic

/-!
# Proxies as the app knows them

The proxies of the configuration (MTProto), those the user adds and the one of the system, what the
manager keeps of a registered proxy (`ProxyEntry`), and the `proxy` objects that the requests to TDLib
are made of (`Payload`).

An extra is the `@extra` of a request, which comes back with its reply.  The texts are
`addProxy_<name>`, `ping_<id>`, `enableProxy_<id>`, `getProxies_purge` and `<label>_<microseconds>`: what
stands before the underscore tells them apart.
-/

namespace RioGram.Proxies

/-! ## Configurations -/

/-- An MTProto proxy of the configuration of the app. -/
structure ProxyConfig where
  name : String
  host : String
  port : ℤ
  secret : String
deriving DecidableEq

def hexDigit (c : Char) : Option ℕ :=
  if '0' ≤ c ∧ c ≤ '9' then some (c.toNat - '0'.toNat)
  else if 'a' ≤ c ∧ c ≤ 'f' then some (c.toNat - 'a'.toNat + 10)
  else if 'A' ≤ c ∧ c ≤ 'F' then some (c.toNat - 'A'.toNat + 10)
  else none

def hexDecode : List Char → Option (List ℕ)
  | [] => some []
  | [_] => none
  | high :: low :: rest => do
      let byte := 16 * (← hexDigit high) + (← hexDigit low)
      return byte :: (← hexDecode rest)

/-- The secret is hexadecimal, and as long as its first byte says. -/
def ProxyConfig.hasValidSecret (proxy : ProxyConfig) : Bool :=
  match hexDecode proxy.secret.toList with
  | none => false
  | some decoded =>
      decoded.length == 16 || (decoded.length == 17 && decoded.head? == some 0xDD) ||
        (18 ≤ decoded.length && decoded.head? == some 0xEE)

/-- What of `AppConfig` the manager reads. -/
structure AppConfig where
  phantomProxy : Option ProxyConfig
  stealthProxy : Option ProxyConfig

inductive UserProxyType where
  | socks5
  | http
deriving DecidableEq

structure UserProxyConfig where
  id : String
  name : String
  host : String
  port : ℤ
  type : UserProxyType
  username : String := ""
  password : String := ""
  httpOnly : Bool := false
deriving DecidableEq

inductive SystemProxyType where
  | http
  | socks5
deriving DecidableEq

structure SystemProxyConfig where
  host : String
  port : ℤ
  type : SystemProxyType
  username : String := ""
  password : String := ""
deriving DecidableEq

def SystemProxyConfig.isConfigured (proxy : SystemProxyConfig) : Bool :=
  proxy.host ≠ "" && 0 < proxy.port

def transportComment : String := "RioGram:Transport"

def systemProxyName : String := "Системный прокси"

def transportProxyName : String := "Системный прокси (транспорт)"

/-! ## Entries -/

inductive ProxyHealth where
  | unknown
  | checking
  | ok
  | failed
deriving DecidableEq

/-- A registered proxy, under the id that TDLib has given it. -/
structure ProxyEntry where
  id : ℤ
  name : String
  host : String
  port : ℤ
  isActive : Bool := false
  health : ProxyHealth := .unknown
deriving DecidableEq

def ProxyEntry.isSystemLike (proxy : ProxyEntry) : Bool :=
  proxy.name == systemProxyName || proxy.name == transportProxyName

/-! ## Requests to register a proxy -/

/-- The `type` of a `proxy` object. -/
inductive PayloadType where
  | socks5 (username password : String)
  | http (username password : String) (httpOnly : Bool)
  | mtproto (secret : String)
deriving DecidableEq

/-- A `proxy` object. -/
structure Payload where
  server : String
  port : ℤ
  type : PayloadType
deriving DecidableEq

def proxyPayload (proxy : ProxyConfig) : Payload where
  server := proxy.host
  port := proxy.port
  type := .mtproto proxy.secret

def userProxyPayload (proxy : UserProxyConfig) : Payload where
  server := proxy.host
  port := proxy.port
  type := match proxy.type with
    | .socks5 => .socks5 proxy.username proxy.password
    | .http => .http proxy.username proxy.password proxy.httpOnly

def systemProxyPayload (proxy : SystemProxyConfig) : Payload where
  server := proxy.host
  port := proxy.port
  type := match proxy.type with
    | .socks5 => .socks5 proxy.username proxy.password
    | .http => .http proxy.username proxy.password false

inductive Extra where
  | addProxy (name : String)
  | ping (proxyId : ℤ)
  | enableProxy (proxyId : ℤ)
  | getProxiesPurge
  | stamped (label : String) (microseconds : ℕ)
  | other (text : String)
deriving DecidableEq

/-- An `addProxy` request, by the proxy it is made for. -/
inductive Request where
  | system (proxy : SystemProxyConfig) (isTransportOnly : Bool)
  | config (proxy : ProxyConfig)
  | user (proxy : UserProxyConfig)
deriving DecidableEq

namespace Request

def payload : Request → Payload
  | .system proxy _ => systemProxyPayload proxy
  | .config proxy => proxyPayload proxy
  | .user proxy => userProxyPayload proxy

def comment : Request → String
  | .system _ isTransportOnly => if isTransportOnly then transportComment else systemProxyName
  | .config proxy => proxy.name
  | .user proxy => proxy.name

def extra : Request → Extra
  | .system _ isTransportOnly => .addProxy (if isTransportOnly then "Transport" else "System")
  | .config proxy => .addProxy proxy.name
  | .user proxy => .addProxy proxy.name

/-- The name that the proxy is shown under. -/
def displayName : Request → String
  | .system _ isTransportOnly => if isTransportOnly then transportProxyName else systemProxyName
  | .config proxy => proxy.name
  | .user proxy => proxy.name

end Request

end RioGram.Proxies
