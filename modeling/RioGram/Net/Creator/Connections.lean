import RioGram.Net.Creator.State

/-!
# Opening connections

`find_connection` chooses an address and opens a socket to it, `prepare_connection` decides what is
done with the socket.  The two are called one after the other from `client_loop` and from
`ping_proxy_resolved`, with the transport proxy passed between them through `FindConnectionExtra`.

The DC options, the options of the application and the operating system's sockets are `Net`: they
answer as they like.
-/

namespace RioGram

open Wire

/-! ## What lies outside -/

/-- `mtproto::TransportType`. -/
structure TransportType where
  isHttp : Bool := false
  dcId : ℤ := 0
  secret : ProxySecret := {}
  deriving DecidableEq, Repr

/-- `DcOptionsSet::ConnectionInfo` with the option it points to. -/
structure ConnectionInfo where
  dcId : ℤ
  isMediaOnly : Bool := false
  ipAddress : IpAddress
  secret : ProxySecret := {}
  useHttp : Bool := false
  shouldCheck : Bool := false
  deriving DecidableEq, Repr

/-- The surroundings of a connection attempt. -/
structure Net where
  preferIpv6 : Bool := false
  isTestDc : Bool := false
  mainDcId : ℤ := 2
  /-- `DcOptionsSet::find_connection(dc_id, allow_media_only, use_static, prefer_ipv6, only_http)` -/
  findConnection : (dcId : ℤ) → (allowMediaOnly useStatic preferIpv6 onlyHttp : Bool) →
    Except String ConnectionInfo
  /-- the error of `SocketFd::open`, if it fails -/
  openError : Option IpAddress → Option String

/-- A socket that is being connected to `peer`. -/
structure Socket where
  peer : Option IpAddress
  deriving DecidableEq, Repr

/-- `SocketFd::open`. -/
def Net.openSocket (net : Net) (address : Option IpAddress) : Except String Socket :=
  match net.openError address with
  | some error => .error error
  | none => .ok ⟨address⟩

namespace ConnectionCreator

/-- `get_transport_type`. -/
def getTransportType (net : Net) (proxy : Proxy) (info : ConnectionInfo) : TransportType :=
  let intDcId := if net.isTestDc then info.dcId + 10000 else info.dcId
  let rawDcId := if info.isMediaOnly then -intDcId else intDcId
  if proxy.useMtprotoProxy then { dcId := rawDcId, secret := proxy.secret }
  else if proxy.useHttpCachingProxy then
    let authorization :=
      if proxy.user ≠ "" ∨ proxy.password ≠ "" then
        utf8 "|basic " ++ base64Encode (utf8 proxy.user ++ [58] ++ utf8 proxy.password)
      else []
    { isHttp := true, secret := ⟨utf8 info.ipAddress.host ++ authorization⟩ }
  else if info.useHttp then { isHttp := true }
  else { dcId := rawDcId, secret := info.secret }

/-! ## `find_connection` -/

/-- `FindConnectionExtra`, without what is only logged. -/
structure FindConnectionExtra where
  transportType : TransportType := {}
  ipAddress : Option IpAddress := none
  mtprotoIpAddress : Option IpAddress := none
  transportProxy : Proxy := {}
  useTransportForMtproto : Bool := false
  checkMode : Bool := false

/-- The error that makes a ping request wait. -/
def notResolvedYet : String := "Transport proxy is not resolved yet"

/-- `find_connection`. -/
def findConnection (net : Net) (s : ConnectionCreator) (proxy : Proxy)
    (proxyIpAddress : Option IpAddress) (dcId : ℤ) (allowMediaOnly : Bool) :
    Except String Socket × FindConnectionExtra × ConnectionCreator :=
  let preferIpv6 :=
    net.preferIpv6 || (proxy.useProxy && (proxyIpAddress.map IpAddress.isIpv6).getD false)
  let onlyHttp := proxy.useHttpCachingProxy
  match net.findConnection dcId allowMediaOnly (proxy.useProxy && proxy.useSocks5Proxy) preferIpv6
      onlyHttp with
  | .error error => (.error error, {}, s)
  | .ok info =>
      let extra : FindConnectionExtra := { transportType := getTransportType net proxy info }
      if proxy.useMtprotoProxy then
        if s.transportProxyId ≠ 0 then
          if s.transportProxyIpAddress.isNone then (.error notResolvedYet, extra, s)
          else
            let (entry, s) := s.subscript s.transportProxyId
            let extra :=
              { extra with
                transportProxy := entry.1
                useTransportForMtproto := true
                mtprotoIpAddress := proxyIpAddress
                ipAddress := s.transportProxyIpAddress }
            (net.openSocket s.transportProxyIpAddress, extra, s)
        else (net.openSocket proxyIpAddress, extra, s)
      else
        let extra := { extra with checkMode := info.shouldCheck }
        let extra :=
          if proxy.useProxy then
            { extra with mtprotoIpAddress := some info.ipAddress, ipAddress := proxyIpAddress }
          else { extra with ipAddress := some info.ipAddress }
        (net.openSocket extra.ipAddress, extra, s)

/-! ## `prepare_connection` -/

/-- What is done with the outcome of a proxy handshake: `Callback` sets the promise with it,
`TransportTlsCallback` starts a TLS handshake over it. -/
inductive Callback where
  | connection (ipAddress : Option IpAddress) (wasConnected : Bool)
  | transportTls (ipAddress : Option IpAddress) (domain secret : Bytes)
  deriving DecidableEq, Repr

/-- What `prepare_connection` does with the socket and the promise it is given: it hands them to an
actor, sets the promise at once with the socket as it is, or drops both (and a promise that is dropped
is set with an error). -/
inductive Prepared where
  | socks5 (socket : Socket) (target : Option IpAddress) (user password : String) (callback : Callback)
  | httpProxy (socket : Socket) (target : Option IpAddress) (user password : String)
      (callback : Callback)
  | tlsInit (socket : Socket) (domain secret : Bytes) (callback : Callback)
  | direct (ipAddress : Option IpAddress) (socket : Socket)
  | dropped
  deriving DecidableEq, Repr

/-- `prepare_connection`. -/
def prepareConnection (ipAddress : Option IpAddress) (socket : Socket) (proxy : Proxy)
    (mtprotoIpAddress : Option IpAddress) (transportType : TransportType) (transportProxy : Proxy) :
    Prepared :=
  if transportType.secret.emulateTls && transportProxy.useProxy then
    let callback := .transportTls mtprotoIpAddress transportType.secret.getDomain
      transportType.secret.getProxySecret
    if transportProxy.useSocks5Proxy then
      .socks5 socket mtprotoIpAddress transportProxy.user transportProxy.password callback
    else if transportProxy.useHttpTcpProxy then
      .httpProxy socket mtprotoIpAddress transportProxy.user transportProxy.password callback
    else .dropped
  else if proxy.useSocks5Proxy || proxy.useHttpTcpProxy || transportType.secret.emulateTls then
    let callback := .connection ipAddress (!proxy.useSocks5Proxy)
    if proxy.useSocks5Proxy then
      .socks5 socket mtprotoIpAddress proxy.user proxy.password callback
    else if proxy.useHttpTcpProxy then
      .httpProxy socket mtprotoIpAddress proxy.user proxy.password callback
    else .tlsInit socket transportType.secret.getDomain transportType.secret.getProxySecret callback
  else .direct ipAddress socket

/-- `find_connection` and then `prepare_connection`, as `client_loop` and `ping_proxy_resolved` call
them. -/
def connect (net : Net) (s : ConnectionCreator) (proxy : Proxy) (proxyIpAddress : Option IpAddress)
    (dcId : ℤ) (allowMediaOnly : Bool) : Except String Prepared × ConnectionCreator :=
  match s.findConnection net proxy proxyIpAddress dcId allowMediaOnly with
  | (.error error, _, s) => (.error error, s)
  | (.ok socket, extra, s) =>
      let s := s.nextToken.2
      (.ok (prepareConnection extra.ipAddress socket proxy extra.mtprotoIpAddress extra.transportType
        (if extra.useTransportForMtproto then extra.transportProxy else {})), s)

/-! ## Clients and pings -/

/-- One round of the main loop of `client_loop`, which may be reached any number of times whenever a
client is looked after. -/
structure Attempt where
  net : Net
  dcId : ℤ
  allowMediaOnly : Bool

def clientAttempt (s : ConnectionCreator) (attempt : Attempt) : ConnectionCreator :=
  if ¬ s.networkFlag ∨ s.closeFlag then s
  else
    let (entry, s) := if s.activeProxyId = 0 then (({}, ""), s) else s.subscript s.activeProxyId
    if entry.1.useProxy ∧ s.proxyIpAddress.isNone then s
    else (s.connect attempt.net entry.1 s.proxyIpAddress attempt.dcId attempt.allowMediaOnly).2

/-- `client_loop` for all clients. -/
def clientLoops (s : ConnectionCreator) (attempts : List Attempt) : ConnectionCreator :=
  attempts.foldl clientAttempt s

/-- `ping_proxy_resolved`. -/
def pingProxyResolved (net : Net) (s : ConnectionCreator) (proxy : Proxy) (ipAddress : IpAddress)
    (request : ℕ) : Except CheckFailure ConnectionCreator :=
  match s.connect net proxy (some ipAddress) net.mainDcId false with
  | (.error error, s) =>
      if s.transportProxyId ≠ 0 ∧ s.transportProxyIpAddress.isNone ∧ error = notResolvedYet then
        loop { s with
          pendingPingProxyRequests := s.pendingPingProxyRequests ++ [⟨proxy, ipAddress, request⟩] }
      else .ok (s.settle request)
  | (.ok prepared, s) =>
      if ¬ proxy.useProxy then .error .noProxy
      else match prepared with
      | .dropped => .ok (s.settle request)
      | _ => .ok { s with connecting := s.connecting ++ [request] }

/-- The requests of a list one after another, each with its own surroundings. -/
def pingAll (nets : ℕ → Net) (s : ConnectionCreator) :
    List PendingPingProxyRequest → Except CheckFailure ConnectionCreator
  | [] => .ok s
  | r :: rs => (s.pingProxyResolved (nets r.request) r.proxy r.ipAddress r.request).bind fun s =>
      s.pingAll nets rs

/-- `flush_pending_ping_proxy_requests`. -/
def flushPendingPingProxyRequests (nets : ℕ → Net) (s : ConnectionCreator) :
    Except CheckFailure ConnectionCreator :=
  if s.transportProxyIpAddress.isNone ∨ s.pendingPingProxyRequests = [] then .ok s
  else
    let pending := s.pendingPingProxyRequests
    pingAll nets { s with pendingPingProxyRequests := [] } pending

end ConnectionCreator

end RioGram
