import RioGram.Net.Creator.Connections

/-!
# The requests and messages `ConnectionCreator` handles

`step` takes one of them from a state to the next, or fails with the `CHECK` that aborts the process.
A run starts with `startUp` on the proxies found in the database.

Handlers are given what they take from outside as arguments: how the sockets they open behave, and
which rounds of `client_loop` are due.  The resolver may answer its queries in any order and at any
time, but only queries that it was sent; an event that cannot happen changes nothing.
-/

namespace RioGram

namespace ConnectionCreator

/-! ## `add_proxy` -/

/-- `set_proxy_comment` on the entry of `proxyId`, with what is left of the new comment: it is moved
into the entry, and so becomes empty, unless the entry has the same one already. -/
def setProxyComment (s : ConnectionCreator) (proxyId : ℤ) (newComment : String) :
    Except CheckFailure (String × ConnectionCreator) :=
  let (entry, s) := s.subscript proxyId
  if entry.2 = newComment then .ok (newComment, s)
  else if proxyId ≤ 0 then .error .proxyId
  else .ok ("", { s with proxies := s.proxies.insert proxyId (entry.1, newComment) })

/-- The identifier under which a proxy is stored, the first if there are several. -/
def findProxy (proxies : ProxyMap) (proxy : Proxy) : Option ℤ :=
  (proxies.toList.find? fun entry => entry.2.1 = proxy).map Prod.fst

/-- The entry of a new proxy, with the writes to the database that want a positive identifier. -/
def emplaceProxy (s : ConnectionCreator) (proxyId : ℤ) (proxy : Proxy) :
    Except CheckFailure (ℤ × ConnectionCreator) :=
  if proxyId ≤ 0 then .error .proxyId
  else if s.proxies[proxyId]?.isSome then .error .notInserted
  else .ok (proxyId, { s with proxies := s.proxies.insert proxyId (proxy, "") })

/-- The identifier of the proxy in `add_proxy`: that of an equal proxy, the old one, or a new one. -/
def placeProxy (s : ConnectionCreator) (oldProxyId : ℤ) (proxy : Proxy) :
    Except CheckFailure (ℤ × ConnectionCreator) :=
  match findProxy s.proxies proxy with
  | some proxyId => .ok (proxyId, s)
  | none =>
      if 0 ≤ oldProxyId then s.emplaceProxy oldProxyId proxy
      else if s.maxProxyId < 2 then .error .maxProxyId
      else emplaceProxy { s with maxProxyId := s.maxProxyId + 1 } s.maxProxyId proxy

/-- `td_api::addedProxy`. -/
structure AddedProxy where
  id : ℤ
  isEnabled : Bool
  comment : String
  proxy : Proxy
  deriving DecidableEq, Repr

/-- `get_added_proxy_object`. -/
def getAddedProxyObject (s : ConnectionCreator) (proxyId : ℤ) : Except CheckFailure AddedProxy :=
  match s.proxies[proxyId]? with
  | none => .error .unknownProxy
  | some entry => .ok ⟨proxyId, proxyId = s.activeProxyId, entry.2, entry.1⟩

/-- `enable_proxy_impl` if it is asked for. -/
def enableIf (s : ConnectionCreator) (enable : Bool) (proxyId : ℤ) :
    Except CheckFailure ConnectionCreator :=
  if enable then s.enableProxyImpl proxyId else .ok s

/-- `add_proxy` from where the old proxy, if there was one, is gone. -/
def storeProxy (s : ConnectionCreator) (oldProxyId : ℤ) (proxy : Proxy) (enable : Bool)
    (comment : String) : Except CheckFailure (Except String AddedProxy × ConnectionCreator) :=
  (s.placeProxy oldProxyId proxy).bind fun (proxyId, s) =>
  (s.setProxyComment proxyId comment).bind fun (comment, s) =>
  ((s.updateTransportProxyId proxyId comment).enableIf enable proxyId).bind fun s =>
  (s.getAddedProxyObject proxyId).bind fun added => .ok (.ok added, s)

/-- `add_proxy` on an identifier that has the same proxy already. -/
def recomment (s : ConnectionCreator) (oldProxyId : ℤ) (enable : Bool) (comment : String) :
    Except CheckFailure (Except String AddedProxy × ConnectionCreator) :=
  (s.setProxyComment oldProxyId comment).bind fun (_, s) =>
  (s.enableIf enable oldProxyId).bind fun s =>
  (s.getAddedProxyObject oldProxyId).bind fun added => .ok (.ok added, s)

/-- `disable_proxy_impl` for a proxy that is about to go, if it is the active one. -/
def disableIfActive (s : ConnectionCreator) (proxyId : ℤ) : Except CheckFailure ConnectionCreator :=
  if proxyId = s.activeProxyId then s.disableProxyImpl else .ok s

/-- `proxies_.erase`, with the writes to the database that want a positive identifier. -/
def eraseProxy (s : ConnectionCreator) (proxyId : ℤ) : Except CheckFailure ConnectionCreator :=
  if proxyId ≤ 0 then .error .proxyId else .ok { s with proxies := s.proxies.erase proxyId }

/-- `add_proxy` of a proxy that could be created. -/
def addCreatedProxy (s : ConnectionCreator) (oldProxyId : ℤ) (proxy : Proxy) (enable : Bool)
    (comment : String) : Except CheckFailure (Except String AddedProxy × ConnectionCreator) :=
  if 0 ≤ oldProxyId then
    match s.proxies[oldProxyId]? with
    | none => .ok (.error "Proxy not found", s)
    | some old =>
        if old.1 = proxy then s.recomment oldProxyId enable comment
        else
          (s.disableIfActive oldProxyId).bind fun t => (t.eraseProxy oldProxyId).bind fun t =>
            t.storeProxy oldProxyId proxy (enable || oldProxyId = s.activeProxyId) comment
  else s.storeProxy oldProxyId proxy enable comment

/-- `add_proxy`, with its reply. -/
def addProxy (s : ConnectionCreator) (oldProxyId : ℤ) (input : Option InputProxy) (enable : Bool)
    (comment : String) : Except CheckFailure (Except String AddedProxy × ConnectionCreator) :=
  match Proxy.createProxy input with
  | .error error => .ok (.error error, s)
  | .ok proxy => s.addCreatedProxy oldProxyId proxy enable comment

/-! ## Other requests -/

/-- `enable_proxy`. -/
def enableProxy (s : ConnectionCreator) (proxyId : ℤ) :
    Except CheckFailure (Except String Unit × ConnectionCreator) :=
  if s.proxies[proxyId]?.isNone then .ok (.error "Unknown proxy identifier", s)
  else (s.enableProxyImpl proxyId).bind fun s => .ok (.ok (), s)

/-- `disable_proxy`. -/
def disableProxy (s : ConnectionCreator) : Except CheckFailure (Except String Unit × ConnectionCreator) :=
  s.disableProxyImpl.bind fun s => .ok (.ok (), s)

/-- The part of `remove_proxy` about the transport proxy. -/
def forgetTransport (s : ConnectionCreator) (proxyId : ℤ) : ConnectionCreator :=
  if proxyId = s.transportProxyId then
    { s with transportProxyId := 0, transportProxyIpAddress := none }
  else s

/-- `remove_proxy`. -/
def removeProxy (s : ConnectionCreator) (proxyId : ℤ) :
    Except CheckFailure (Except String Unit × ConnectionCreator) :=
  if s.proxies[proxyId]?.isNone then .ok (.error "Unknown proxy identifier", s)
  else
    (s.disableIfActive proxyId).bind fun s => ((s.forgetTransport proxyId).eraseProxy proxyId).bind fun s =>
      .ok (.ok (), s)

/-- `ping_proxy` with a proxy; the request is known by its number from here on. -/
def pingProxy (s : ConnectionCreator) (input : InputProxy) : Except CheckFailure ConnectionCreator :=
  if s.closeFlag then .error .closed
  else
    let request := s.nextRequest
    let s := { s with nextRequest := request + 1 }
    match Proxy.createProxy (some input) with
    | .error _ => .ok (s.settle request)
    | .ok proxy => .ok { s with resolving := s.resolving ++ [.ping request proxy] }

/-! ## Messages -/

/-- `on_network`. -/
def onNetwork (s : ConnectionCreator) (networkFlag : Bool) (networkGeneration : ℕ)
    (attempts : List Attempt) : Except CheckFailure ConnectionCreator :=
  let oldGeneration := s.networkGeneration
  let s := { s with networkFlag, networkGeneration }
  if networkFlag then
    let s := { s with resolveProxyQueryToken := 0, resolveProxyTimestamp := 0 }
    let s := s.clientLoops attempts
    if oldGeneration ≠ networkGeneration then s.loop else .ok s
  else .ok s

/-- `on_proxy_resolved`. -/
def onProxyResolved (s : ConnectionCreator) (linkToken : ℕ) (result : Except String IpAddress)
    (attempts : List Attempt) : Except CheckFailure ConnectionCreator :=
  if linkToken ≠ s.resolveProxyQueryToken then s.loop
  else
    let s := { s with resolveProxyQueryToken := 0 }
    match result with
    | .error _ => loop { s with resolveProxyTimestamp := s.now + seconds 60 }
    | .ok address =>
        let s :=
          { s with
            proxyIpAddress := some address
            resolveProxyTimestamp := s.now + seconds 300 }
        (s.clientLoops attempts).loop

/-- `on_transport_proxy_resolved`. -/
def onTransportProxyResolved (s : ConnectionCreator) (linkToken : ℕ)
    (result : Except String IpAddress) (nets : ℕ → Net) (attempts : List Attempt) :
    Except CheckFailure ConnectionCreator :=
  if linkToken ≠ s.resolveTransportProxyQueryToken then s.loop
  else
    let s := { s with resolveTransportProxyQueryToken := 0 }
    match result with
    | .error _ => loop { s with resolveTransportProxyTimestamp := s.now + seconds 60 }
    | .ok address =>
        let s :=
          { s with
            transportProxyIpAddress := some address
            resolveTransportProxyTimestamp := s.now + seconds 300 }
        (s.flushPendingPingProxyRequests nets).bind fun s => (s.clientLoops attempts).loop

/-- The resolver answers a query: it is not outstanding any more, and an address it returns is
remembered. -/
def receive (s : ConnectionCreator) (query : Query) (result : Except String IpAddress) :
    ConnectionCreator :=
  let s := { s with resolving := s.resolving.erase query }
  match result with
  | .error _ => s
  | .ok address =>
      { s with resolved := s.resolved ++ [(query.endpoint.1, query.endpoint.2, address)] }

/-- What an answer is sent to. -/
def dispatch (s : ConnectionCreator) (query : Query) (result : Except String IpAddress)
    (nets : ℕ → Net) (attempts : List Attempt) : Except CheckFailure ConnectionCreator :=
  match query with
  | .transport token _ _ => s.onTransportProxyResolved token result nets attempts
  | .main token _ _ => s.onProxyResolved token result attempts
  | .ping request proxy =>
      match result with
      | .error _ => .ok (s.settle request)
      | .ok address => s.pingProxyResolved (nets request) proxy address request

/-! ## Steps -/

inductive Event where
  | addProxy (oldProxyId : ℤ) (proxy : Option InputProxy) (enable : Bool) (comment : String)
  | enableProxy (proxyId : ℤ)
  | disableProxy
  | removeProxy (proxyId : ℤ)
  | pingProxy (proxy : InputProxy)
  | onNetwork (networkFlag : Bool) (networkGeneration : ℕ) (attempts : List Attempt)
  /-- rounds of `client_loop` for any other reason -/
  | clientLoops (attempts : List Attempt)
  | loop
  /-- the clock moves on -/
  | tick (duration : Time)
  /-- the alarm goes off -/
  | timeoutExpired
  /-- the resolver answers -/
  | resolved (query : Query) (result : Except String IpAddress) (nets : ℕ → Net)
      (attempts : List Attempt)
  /-- the connection made for a ping request sets its promise -/
  | pingDone (request : ℕ)
  | close

/-- `timeout_expired`, if the alarm is due. -/
def timeoutExpired (s : ConnectionCreator) : Except CheckFailure ConnectionCreator :=
  match s.timeoutAt with
  | none => .ok s
  | some timeout => if timeout ≤ s.now then loop { s with timeoutAt := none } else .ok s

/-- The promise of a ping request is set, if a connection is being made for it. -/
def pingDone (s : ConnectionCreator) (request : ℕ) : ConnectionCreator :=
  if request ∈ s.connecting then
    settle { s with connecting := s.connecting.erase request } request
  else s

def step (s : ConnectionCreator) : Event → Except CheckFailure ConnectionCreator
  | .addProxy oldProxyId proxy enable comment =>
      (s.addProxy oldProxyId proxy enable comment).map Prod.snd
  | .enableProxy proxyId => (s.enableProxy proxyId).map Prod.snd
  | .disableProxy => s.disableProxy.map Prod.snd
  | .removeProxy proxyId => (s.removeProxy proxyId).map Prod.snd
  | .pingProxy proxy => s.pingProxy proxy
  | .onNetwork networkFlag networkGeneration attempts =>
      s.onNetwork networkFlag networkGeneration attempts
  | .clientLoops attempts => .ok (s.clientLoops attempts)
  | .loop => s.loop
  | .tick duration => .ok { s with now := s.now + duration }
  | .timeoutExpired => s.timeoutExpired
  | .resolved query result nets attempts =>
      if query ∈ s.resolving then (s.receive query result).dispatch query result nets attempts
      else .ok s
  | .pingDone request => .ok (s.pingDone request)
  | .close => .ok { s with closeFlag := true }

/-! ## The start -/

/-- The part of the database about proxies: `proxy_max_id`, `proxy_active_id`, the proxies and the
comments, with identifiers decoded. -/
structure ProxyDatabase where
  maxId : Option ℤ := none
  activeId : Option ℤ := none
  proxies : List (ℤ × Proxy) := []
  comments : List (ℤ × String) := []

/-- The loop of `init_proxies` over the stored proxies. -/
def loadProxies (s : ConnectionCreator) : List (ℤ × Proxy) → Except CheckFailure ConnectionCreator
  | [] => .ok s
  | (proxyId, proxy) :: rest =>
      if proxyId ≤ 0 then .error .proxyId
      else if s.proxies[proxyId]?.isSome then .error .duplicateProxy
      else if proxy.type = .none then
        loadProxies (if s.activeProxyId = proxyId then s.setActiveProxyId 0 else s) rest
      else loadProxies { s with proxies := s.proxies.insert proxyId (proxy, "") } rest

/-- The loop of `init_proxies` over the comments. -/
def loadComments (s : ConnectionCreator) : List (ℤ × String) → Except CheckFailure ConnectionCreator
  | [] => .ok s
  | (proxyId, comment) :: rest =>
      if proxyId ≤ 0 then .error .proxyId
      else match s.proxies[proxyId]? with
      | none => loadComments s rest
      | some entry =>
          loadComments { s with proxies := s.proxies.insert proxyId (entry.1, comment) } rest

/-- The correction of `max_proxy_id_` in `init_proxies`, with the legacy version of one proxy. -/
def fixMaxProxyId (s : ConnectionCreator) : Except CheckFailure ConnectionCreator :=
  if s.maxProxyId = 0 then
    match s.proxies.toList.head? with
    | none => .ok { s with maxProxyId := 2 }
    | some first =>
        if first.1 = 1 then .ok { s with maxProxyId := 2, activeProxyId := 1 } else .error .legacyProxy
  else if s.maxProxyId < 2 then .ok { s with maxProxyId := 2 }
  else .ok s

/-- The part of `init_proxies` about the active proxy. -/
def initActive (s : ConnectionCreator) : Except CheckFailure ConnectionCreator :=
  if s.activeProxyId ≠ 0 then (s.subscript s.activeProxyId).2.onProxyChanged else .ok s

/-- The loop at the end of `init_proxies`. -/
def initTransport (s : ConnectionCreator) : ConnectionCreator :=
  s.proxies.toList.foldl (fun s entry => s.updateTransportProxyId entry.1 entry.2.2) s

/-- `init_proxies`. -/
def initProxies (s : ConnectionCreator) (db : ProxyDatabase) : Except CheckFailure ConnectionCreator :=
  let s :=
    { s with
      maxProxyId := db.maxId.getD s.maxProxyId
      activeProxyId := db.activeId.getD s.activeProxyId }
  (s.loadProxies db.proxies).bind fun s => (s.loadComments db.comments).bind fun s =>
    s.fixMaxProxyId.bind fun s => s.initActive.bind fun s => .ok s.initTransport

/-- `start_up` at a given time. -/
def startUp (now : Time) (db : ProxyDatabase) : Except CheckFailure ConnectionCreator :=
  let s : ConnectionCreator := { now }
  (if db.maxId = some 2 ∧ ∀ entry ∈ db.proxies, entry.1 ≠ 1 then .ok { s with maxProxyId := 2 }
    else s.initProxies db).bind fun s => loop { s with isInited := true }

end ConnectionCreator

end RioGram
