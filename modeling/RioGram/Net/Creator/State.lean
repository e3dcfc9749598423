import RioGram.Core.Transition
import RioGram.Net.Proxy
import RioGram.Tls.DpiBypass

/-!
# The state of `ConnectionCreator`

The fields of the class that have to do with proxies, and below them the part of its surroundings
the class acts on: the clock, its alarm, the name resolver's unanswered queries, and what has become
of the ping requests.

`proxies_` is an ordered map, and `proxies_[id]` on it inserts an empty proxy if there is none; that
is `subscript`, and every use of it in the source is a use of it here.

Notifications to other managers (`StateManager`, `PromoDataManager`, `ConfigManager`, the MTProto
header), writes to the database and the dates of last use have no effect on anything below and are
left out.  `closeFlag` stands for both `close_flag_` and `G()->close_flag()`.
-/

namespace RioGram

/-- `IPAddress`, where it is valid. -/
structure IpAddress where
  host : String
  port : ℕ
  isIpv6 : Bool := false
  deriving DecidableEq, Repr

/-- The `CHECK`s of `ConnectionCreator` that are met below. -/
inductive CheckFailure where
  /-- `CHECK(resolve_transport_proxy_query_token_ == 0)` in `loop` -/
  | transportQueryToken
  /-- `CHECK(resolve_proxy_query_token_ == 0)` in `loop` -/
  | proxyQueryToken
  /-- `CHECK(proxies_.count(...) == 1)` and `CHECK(it != proxies_.end())` -/
  | unknownProxy
  /-- `CHECK(proxies_.count(proxy_id) == 0)` in `init_proxies` -/
  | duplicateProxy
  /-- `CHECK(max_proxy_id_ >= 2)` -/
  | maxProxyId
  /-- `CHECK(is_inserted)` -/
  | notInserted
  /-- `CHECK(proxy_id > 0)` -/
  | proxyId
  /-- `CHECK(proxies_.begin()->first == 1)` in `init_proxies` -/
  | legacyProxy
  /-- `CHECK(!close_flag_)` in `ping_proxy` -/
  | closed
  /-- `CHECK(proxy.use_proxy())` in `ping_proxy_resolved` -/
  | noProxy
  deriving DecidableEq, Repr

/-- A query to the name resolver, with what its answer is sent to: `on_transport_proxy_resolved` and
`on_proxy_resolved` with a link token, or `ping_proxy_resolved` for a request. -/
inductive Query where
  | transport (token : ℕ) (server : String) (port : ℕ)
  | main (token : ℕ) (server : String) (port : ℕ)
  | ping (request : ℕ) (proxy : Proxy)
  deriving DecidableEq, Repr

/-- What the resolver was asked for. -/
def Query.endpoint : Query → String × ℕ
  | .transport _ server port => (server, port)
  | .main _ server port => (server, port)
  | .ping _ proxy => (proxy.server, proxy.port)

/-- `PendingPingProxyRequest`; the promise is known by the number of the request. -/
structure PendingPingProxyRequest where
  proxy : Proxy
  ipAddress : IpAddress
  request : ℕ
  deriving DecidableEq, Repr

/-- The map `proxies_`: proxies with their comments. -/
abbrev ProxyMap := Std.TreeMap ℤ (Proxy × String)

structure ConnectionCreator where
  proxies : ProxyMap := ∅
  maxProxyId : ℤ := 0
  activeProxyId : ℤ := 0
  transportProxyId : ℤ := 0
  proxyIpAddress : Option IpAddress := none
  transportProxyIpAddress : Option IpAddress := none
  resolveProxyTimestamp : Time := 0
  resolveTransportProxyTimestamp : Time := 0
  resolveProxyQueryToken : ℕ := 0
  resolveTransportProxyQueryToken : ℕ := 0
  pendingPingProxyRequests : List PendingPingProxyRequest := []
  networkFlag : Bool := false
  networkGeneration : ℕ := 0
  isInited : Bool := false
  closeFlag : Bool := false
  currentToken : ℕ := 0
  /-- `Time::now()` -/
  now : Time := 0
  /-- when the actor's `loop` is to be run next -/
  timeoutAt : Option Time := none
  /-- the queries the resolver has not answered yet -/
  resolving : List Query := []
  /-- the addresses the resolver has returned so far, with server and port -/
  resolved : List (String × ℕ × IpAddress) := []
  /-- the number of the next ping request -/
  nextRequest : ℕ := 0
  /-- the ping requests for which a connection is being made -/
  connecting : List ℕ := []
  /-- the ping requests whose promise has been set, in order -/
  settled : List ℕ := []

namespace ConnectionCreator

/-! ## Small operations -/

/-- `TRANSPORT_PROXY_COMMENT`. -/
def transportProxyComment : String := "RioGram:Transport"

/-- `proxies_[id]`: an empty proxy is inserted if there is none. -/
def subscript (s : ConnectionCreator) (id : ℤ) : (Proxy × String) × ConnectionCreator :=
  match s.proxies[id]? with
  | some entry => (entry, s)
  | none => (({}, ""), { s with proxies := s.proxies.insert id ({}, "") })

/-- `Timestamp::relax`, where 0 is the empty timestamp. -/
def relax (timeout timestamp : Time) : Time :=
  if timestamp = 0 then timeout else if timeout = 0 ∨ timeout > timestamp then timestamp else timeout

/-- `next_token`. -/
def nextToken (s : ConnectionCreator) : ℕ × ConnectionCreator :=
  (s.currentToken + 1, { s with currentToken := s.currentToken + 1 })

/-- Setting the promise of a ping request. -/
def settle (s : ConnectionCreator) (request : ℕ) : ConnectionCreator :=
  { s with settled := s.settled ++ [request] }

/-! ## `loop` -/

/-- The part of `loop` that starts a query for the transport proxy. -/
def resolveTransport (s : ConnectionCreator) : ConnectionCreator :=
  let (token, s) := s.nextToken
  let s := { s with resolveTransportProxyQueryToken := token }
  let (entry, s) := s.subscript s.transportProxyId
  { s with resolving := s.resolving ++ [.transport token entry.1.server entry.1.port] }

/-- The part of `loop` about the transport proxy. -/
def loopTransport (s : ConnectionCreator) (timeout : Time) :
    Except CheckFailure (ConnectionCreator × Time) :=
  if s.transportProxyId = 0 then .ok (s, timeout)
  else if s.resolveTransportProxyTimestamp ≤ s.now then
    if s.resolveTransportProxyQueryToken = 0 then .ok (s.resolveTransport, timeout)
    else .ok (s, timeout)
  else if s.resolveTransportProxyQueryToken ≠ 0 then .error .transportQueryToken
  else .ok (s, relax timeout s.resolveTransportProxyTimestamp)

/-- The part of `loop` that starts a query for the active proxy. -/
def resolveMain (s : ConnectionCreator) : ConnectionCreator :=
  let (token, s) := s.nextToken
  let s := { s with resolveProxyQueryToken := token }
  let (entry, s) := s.subscript s.activeProxyId
  { s with resolving := s.resolving ++ [.main token entry.1.server entry.1.port] }

/-- The part of `loop` about the active proxy. -/
def loopMain (s : ConnectionCreator) (timeout : Time) :
    Except CheckFailure (ConnectionCreator × Time) :=
  if s.activeProxyId = 0 then .ok (s, timeout)
  else if s.resolveProxyTimestamp ≤ s.now then
    if s.resolveProxyQueryToken = 0 then .ok (s.resolveMain, timeout) else .ok (s, timeout)
  else if s.resolveProxyQueryToken ≠ 0 then .error .proxyQueryToken
  else .ok (s, relax timeout s.resolveProxyTimestamp)

/-- The end of `loop`: the alarm is set if there is something to wait for. -/
def setTimeout (s : ConnectionCreator) (timeout : Time) : ConnectionCreator :=
  if timeout = 0 then s else { s with timeoutAt := some timeout }

/-- `loop`. -/
def loop (s : ConnectionCreator) : Except CheckFailure ConnectionCreator :=
  if s.closeFlag ∨ ¬ s.isInited ∨ ¬ s.networkFlag then .ok s
  else
    (s.loopTransport 0).bind fun (s, timeout) => (s.loopMain timeout).bind fun (s, timeout) =>
      .ok (s.setTimeout timeout)

/-! ## The active and the transport proxy -/

/-- `on_proxy_changed`. -/
def onProxyChanged (s : ConnectionCreator) : Except CheckFailure ConnectionCreator :=
  let s := if s.activeProxyId ≠ 0 then (s.subscript s.activeProxyId).2 else s
  loop { s with resolveProxyQueryToken := 0, resolveProxyTimestamp := 0, proxyIpAddress := none }

/-- `set_active_proxy_id`. -/
def setActiveProxyId (s : ConnectionCreator) (proxyId : ℤ) : ConnectionCreator :=
  { s with activeProxyId := proxyId }

/-- `enable_proxy_impl`. -/
def enableProxyImpl (s : ConnectionCreator) (proxyId : ℤ) : Except CheckFailure ConnectionCreator :=
  if s.proxies[proxyId]?.isNone then .error .unknownProxy
  else if proxyId = s.activeProxyId then .ok s
  else
    let s := if s.activeProxyId ≠ 0 then (s.subscript s.activeProxyId).2 else s
    (s.setActiveProxyId proxyId).onProxyChanged

/-- `disable_proxy_impl`. -/
def disableProxyImpl (s : ConnectionCreator) : Except CheckFailure ConnectionCreator :=
  if s.activeProxyId = 0 then .ok s
  else if s.proxies[s.activeProxyId]?.isNone then .error .unknownProxy
  else (s.setActiveProxyId 0).onProxyChanged

/-- The proxies a transport proxy can be. -/
def isTransportType (proxy : Proxy) : Bool := proxy.useSocks5Proxy || proxy.useHttpTcpProxy

/-- `update_transport_proxy_id`. -/
def updateTransportProxyId (s : ConnectionCreator) (proxyId : ℤ) (comment : String) :
    ConnectionCreator :=
  if comment ≠ transportProxyComment then s
  else match s.proxies[proxyId]? with
  | none => s
  | some entry =>
      if isTransportType entry.1 then
        { s with
          transportProxyId := proxyId
          transportProxyIpAddress := none
          resolveTransportProxyTimestamp := s.now }
      else s

end ConnectionCreator

end RioGram
